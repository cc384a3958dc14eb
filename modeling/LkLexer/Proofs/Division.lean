import LkLexer.Proofs.RuleTable
import LkLexer.Token.Layout
import LkLexer.Tokenizer.Run

/-!
# How a source is divided

Following the rules takes one lexeme after another from the text ahead. Every text is a list of lexemes that
stand apart, followed by nothing or by a fault (`exists_division`), and the run of a tokenizer is decided by
that division: it passes the lexemes, recording each with its place (`exists_passes_of_setApart`), and ends at
the fault or with the tokens recorded. So the results of a source are read off its divisions
(`tokenize_eq_ok_iff`, `tokenize_eq_error_iff`).
-/

namespace LkLexer

namespace Tokenizer

section Run

variable {rules : List Rule} {hrules : ∀ rule ∈ rules, rule.Progresses} {rule : Rule} {state next left : Tokenizer}
  {error : LexError}

/-- A run over a source that is used up ends where it is. -/
theorem run_of_rest_eq_nil (hrest : state.cursor.rest = []) : state.run rules hrules = .ok () state := by
  rw [run]
  split
  · rfl
  · next hcons => rw [hrest] at hcons; cases hcons

/-- A run ends at a character at which no rule applies. -/
theorem run_of_find?_eq_none {c : Char} {after : Text} (hrest : state.cursor.rest = c :: after)
    (hfind : rules.find? (·.applies state.cursor.rest) = none) :
    state.run rules hrules = .error (state.faultHere (.unexpectedCharacter c)) state := by
  rw [run]
  split
  · next hnil => rw [hrest] at hnil; cases hnil
  · next hcons =>
    rw [hrest] at hcons
    obtain ⟨rfl, rfl⟩ := List.cons.inj hcons
    split
    · rfl
    · next hsome => rw [hfind] at hsome; cases hsome

/-- Where text is left, a run goes on with what the first rule that applies does. -/
theorem run_of_find?_eq_some (hrest : state.cursor.rest ≠ [])
    (hfind : rules.find? (·.applies state.cursor.rest) = some rule) :
    state.run rules hrules =
      match state.apply rule with
      | .ok () next => next.run rules hrules
      | .error error left => .error error left := by
  rw [run]
  split
  · next hnil => exact absurd hnil hrest
  · split
    · next hnone => rw [hfind] at hnone; cases hnone
    · next hsome =>
      obtain rfl := Option.some.inj (hfind.symm.trans hsome)
      split <;> next happly => rw [happly]

/-- A run goes on from where the first rule that applies leads. -/
theorem run_of_apply_eq_ok (hrest : state.cursor.rest ≠ [])
    (hfind : rules.find? (·.applies state.cursor.rest) = some rule) (happly : state.apply rule = .ok () next) :
    state.run rules hrules = next.run rules hrules := by
  rw [run_of_find?_eq_some hrest hfind, happly]

/-- A run ends with the error that the first rule that applies meets. -/
theorem run_of_apply_eq_error (hrest : state.cursor.rest ≠ [])
    (hfind : rules.find? (·.applies state.cursor.rest) = some rule) (happly : state.apply rule = .error error left) :
    state.run rules hrules = .error error left := by
  rw [run_of_find?_eq_some hrest hfind, happly]

end Run

/-- The second tokenizer is the first one after it has taken some lexemes from the text ahead. -/
structure Passes (state : Tokenizer) (lexemes : List Lexeme) (next : Tokenizer) : Prop where
  label : next.label = state.label
  rest : state.cursor.rest = Lexeme.joined lexemes ++ next.cursor.rest
  position : next.cursor.position = state.cursor.position + Text.byteLength (Lexeme.joined lexemes)
  tokens : next.tokens.toList = state.tokens.toList ++ Token.layOut state.label state.cursor.position lexemes

namespace Passes

variable {state middle next : Tokenizer} {front back : List Lexeme}

/-- Nothing is passed by standing still. -/
theorem refl (state : Tokenizer) : state.Passes [] state :=
  ⟨rfl, rfl, rfl, by simp [Token.layOut]⟩

/-- What is passed on two ways is passed on one after the other. -/
theorem trans (hfront : state.Passes front middle) (hback : middle.Passes back next) :
    state.Passes (front ++ back) next where
  label := hback.label.trans hfront.label
  rest := by rw [hfront.rest, hback.rest, Lexeme.joined_append, List.append_assoc]
  position := by
    rw [hback.position, hfront.position, Lexeme.joined_append, Text.byteLength_append, Nat.add_assoc]
  tokens := by
    rw [hback.tokens, hfront.tokens, hfront.label, hfront.position, Token.layOut_append, List.append_assoc]

/-- Taking the characters of a lexeme passes it. -/
theorem of_take {lexeme : Lexeme} {after : Text} (hrest : state.cursor.rest = lexeme.value ++ after) :
    state.Passes [lexeme] (state.take lexeme.value.length lexeme.kind) := by
  have hposition : (state.take lexeme.value.length lexeme.kind).cursor.position =
      state.cursor.position + Text.byteLength lexeme.value := by
    change (state.cursor.advance lexeme.value.length).position = _
    rw [Cursor.position_advance, hrest, List.take_left]
  refine ⟨rfl, ?_, ?_, ?_⟩
  · rw [rest_take, hrest, List.drop_left, Lexeme.joined_cons, Lexeme.joined_nil, List.append_nil]
  · rw [hposition, Lexeme.joined_cons, Lexeme.joined_nil, List.append_nil]
  · change (state.tokens.push ⟨⟨lexeme.kind, state.cursor.rest.take lexeme.value.length⟩, .between state.label
      state.cursor.position (state.take lexeme.value.length lexeme.kind).cursor.position⟩).toList = _
    rw [Array.toList_push, hposition, hrest, List.take_left]
    rfl

end Passes

section Table

variable {hrules : ∀ rule ∈ Rule.table, rule.Progresses}

/-- A run passes the lexeme that the text ahead begins with and goes on behind it. -/
theorem run_eq_run_take {state : Tokenizer} {lexeme : Lexeme} {after : Text}
    (hrest : state.cursor.rest = lexeme.value ++ after) (hvalid : lexeme.Valid)
    (hstops : lexeme.kind.StopsBefore after) :
    state.run Rule.table hrules = (state.take lexeme.value.length lexeme.kind).run Rule.table hrules := by
  obtain ⟨rule, hfind, hkind, hextent⟩ := Rule.exists_find?_table_append hvalid hstops
  have hne : state.cursor.rest ≠ [] := by simp [hrest, hvalid.value_ne_nil]
  rw [← hrest] at hfind hextent
  apply run_of_apply_eq_ok hne hfind
  rw [apply, hextent, hkind]

/-- A run passes lexemes that stand apart from one another and from what is behind them. -/
theorem exists_passes_of_setApart {state : Tokenizer} {lexemes : List Lexeme} {rest : Text}
    (hrest : state.cursor.rest = Lexeme.joined lexemes ++ rest) (hapart : Lexeme.SetApart lexemes rest) :
    ∃ next, state.Passes lexemes next ∧ state.run Rule.table hrules = next.run Rule.table hrules := by
  induction lexemes generalizing state with
  | nil => exact ⟨state, .refl state, rfl⟩
  | cons lexeme later ih =>
    obtain ⟨hvalid, hstops, hlater⟩ := hapart
    rw [Lexeme.joined_cons, List.append_assoc] at hrest
    have hbehind : (state.take lexeme.value.length lexeme.kind).cursor.rest = Lexeme.joined later ++ rest := by
      rw [rest_take, hrest, List.drop_left]
    obtain ⟨next, hpasses, hrun⟩ := ih hbehind hlater
    exact ⟨next, (Passes.of_take hrest).trans hpasses, (run_eq_run_take hrest hvalid hstops).trans hrun⟩

end Table

end Tokenizer

/-- Where a fault is reported: on the spot, or for a comment that is never closed at the end of the source. -/
def Fault.reportedAt (place : Nat) (rest : Text) : Fault → Nat
  | unexpectedCharacter _ => place
  | unterminatedBlockComment => place + Text.byteLength rest

/-- Errors are found at the same distance from what is passed, wherever that begins. -/
theorem Fault.reportedAt_add (fault : Fault) (place count : Nat) (rest : Text) :
    fault.reportedAt (place + count) rest = fault.reportedAt place rest + count := by
  cases fault with
  | unexpectedCharacter c => rfl
  | unterminatedBlockComment => exact Nat.add_right_comm place count _

/-- A run ends at a fault. -/
theorem Tokenizer.exists_run_eq_of_blocks {hrules : ∀ rule ∈ Rule.table, rule.Progresses} {state : Tokenizer}
    {fault : Fault} (hblocks : fault.Blocks state.cursor.rest) :
    ∃ left, state.run Rule.table hrules =
      .error ⟨fault, .ofPlace state.label (fault.reportedAt state.cursor.position state.cursor.rest)⟩ left := by
  cases fault with
  | unexpectedCharacter c =>
    obtain ⟨after, hrest, hnothing⟩ := hblocks
    refine ⟨state, run_of_find?_eq_none hrest ?_⟩
    rw [hrest, Rule.find?_table_eq_none_iff]
    exact hnothing
  | unterminatedBlockComment =>
    obtain ⟨body, hrest, hbody⟩ := hblocks
    obtain ⟨rule, hfind, hextent⟩ := Rule.exists_find?_table_of_not_closed hbody
    have hne : state.cursor.rest ≠ [] := by simp [hrest, blockOpening]
    rw [← hrest] at hfind hextent
    refine ⟨state.advance state.cursor.rest.length, run_of_apply_eq_error hne hfind ?_⟩
    rw [apply, hextent]
    change EStateM.Result.error (LexError.mk _ (.ofPlace _ (state.cursor.advance _).position)) _ = _
    rw [Cursor.position_advance, List.take_length]
    rfl

/-- Every text is a list of lexemes that stand apart, followed by nothing or by a fault. -/
theorem exists_division (source : Text) :
    ∃ lexemes rest, source = Lexeme.joined lexemes ++ rest ∧ Lexeme.SetApart lexemes rest ∧
      (rest = [] ∨ ∃ fault : Fault, fault.Blocks rest) := by
  by_cases hsource : source = []
  · exact ⟨[], [], hsource, trivial, Or.inl rfl⟩
  rcases Rule.exists_lexeme_or_blocks hsource with ⟨lexeme, after, hsplit, hvalid, hstops⟩ | ⟨fault, hblocks⟩
  · obtain ⟨later, rest, rfl, hapart, hend⟩ := exists_division after
    refine ⟨lexeme :: later, rest, ?_, ⟨hvalid, hstops, hapart⟩, hend⟩
    rw [hsplit, Lexeme.joined_cons, List.append_assoc]
  · exact ⟨[], source, rfl, trivial, Or.inr ⟨fault, hblocks⟩⟩
termination_by source.length
decreasing_by
  have hpos := List.length_pos_iff.mpr hvalid.value_ne_nil
  rw [hsplit, List.length_append]
  omega

section Results

variable {source : Text} {label? : Option Text} {lexemes : List Lexeme}

/-- Lexemes that are arranged are the tokens of their text, laid out from its beginning. -/
theorem tokenize_joined (harranged : Lexeme.Arranged lexemes) :
    tokenize (Lexeme.joined lexemes) label? = .ok (Token.layOut (label?.getD defaultLabel) 0 lexemes) := by
  let state := Tokenizer.start (Lexeme.joined lexemes) label?
  have hrest : state.cursor.rest = Lexeme.joined lexemes ++ [] := (List.append_nil _).symm
  obtain ⟨next, hpasses, hrun⟩ :=
    Tokenizer.exists_passes_of_setApart hrest ((Lexeme.setApart_nil_iff lexemes).mpr harranged)
  have hnil : next.cursor.rest = [] := List.append_cancel_left (hpasses.rest.symm.trans hrest)
  change (state.run Rule.table _).result = _
  rw [hrun, Tokenizer.run_of_rest_eq_nil hnil, Tokenizer.Ending.result, hpasses.tokens]
  rfl

/-- Lexemes that stand apart from a fault behind them are passed before it is reported. -/
theorem tokenize_joined_append {rest : Text} {fault : Fault} (hapart : Lexeme.SetApart lexemes rest)
    (hblocks : fault.Blocks rest) :
    tokenize (Lexeme.joined lexemes ++ rest) label? =
      .error ⟨fault, .ofPlace (label?.getD defaultLabel)
        (fault.reportedAt (Text.byteLength (Lexeme.joined lexemes)) rest)⟩ := by
  let state := Tokenizer.start (Lexeme.joined lexemes ++ rest) label?
  have hahead : state.cursor.rest = Lexeme.joined lexemes ++ rest := rfl
  obtain ⟨next, hpasses, hrun⟩ := Tokenizer.exists_passes_of_setApart hahead hapart
  have hrest : next.cursor.rest = rest := List.append_cancel_left (hpasses.rest.symm.trans hahead)
  have hposition : next.cursor.position = Text.byteLength (Lexeme.joined lexemes) :=
    hpasses.position.trans (Nat.zero_add _)
  obtain ⟨left, hleft⟩ := Tokenizer.exists_run_eq_of_blocks (hrest ▸ hblocks)
  change (state.run Rule.table _).result = _
  rw [hrun, hleft, hrest, hposition, hpasses.label]
  rfl

/-- A source is accepted exactly when it is the text of arranged lexemes; its tokens are these, laid out. -/
theorem tokenize_eq_ok_iff {tokens : List Token} :
    tokenize source label? = .ok tokens ↔
      ∃ lexemes, Lexeme.Arranged lexemes ∧ Lexeme.joined lexemes = source ∧
        Token.layOut (label?.getD defaultLabel) 0 lexemes = tokens := by
  refine ⟨fun hok => ?_, fun hlexemes => ?_⟩
  · obtain ⟨lexemes, rest, rfl, hapart, rfl | ⟨fault, hblocks⟩⟩ := exists_division source
    · have harranged := (Lexeme.setApart_nil_iff lexemes).mp hapart
      rw [List.append_nil] at hok ⊢
      exact ⟨lexemes, harranged, rfl, Except.ok.inj ((tokenize_joined harranged).symm.trans hok)⟩
    · cases (tokenize_joined_append hapart hblocks).symm.trans hok
  · obtain ⟨lexemes, harranged, rfl, rfl⟩ := hlexemes
    exact tokenize_joined harranged

/-- The characters of the tokens of an accepted source are the source. -/
theorem joined_lexemes_of_tokenize_eq_ok {tokens : List Token} (hok : tokenize source label? = .ok tokens) :
    Lexeme.joined (Token.lexemes tokens) = source := by
  obtain ⟨lexemes, -, rfl, rfl⟩ := tokenize_eq_ok_iff.mp hok
  rw [Token.lexemes_layOut]

/-- A source is refused exactly when a fault follows lexemes that stand apart from it. -/
theorem tokenize_eq_error_iff {error : LexError} :
    tokenize source label? = .error error ↔
      ∃ lexemes rest, Lexeme.SetApart lexemes rest ∧ Lexeme.joined lexemes ++ rest = source ∧
        error.fault.Blocks rest ∧
        error.position = .ofPlace (label?.getD defaultLabel)
          (error.fault.reportedAt (Text.byteLength (Lexeme.joined lexemes)) rest) := by
  refine ⟨fun herror => ?_, fun hfault => ?_⟩
  · obtain ⟨lexemes, rest, rfl, hapart, rfl | ⟨fault, hblocks⟩⟩ := exists_division source
    · have harranged := (Lexeme.setApart_nil_iff lexemes).mp hapart
      rw [List.append_nil] at herror
      cases (tokenize_joined harranged).symm.trans herror
    · obtain rfl := Except.error.inj ((tokenize_joined_append hapart hblocks).symm.trans herror)
      exact ⟨lexemes, rest, hapart, rfl, hblocks, rfl⟩
  · obtain ⟨lexemes, rest, hapart, rfl, hblocks, hposition⟩ := hfault
    rw [tokenize_joined_append hapart hblocks, ← hposition]

/-- A source that is refused is that of lexemes and of a fault behind them, which is the one reported. -/
theorem exists_blocks_of_tokenize_eq_error {error : LexError} (herror : tokenize source label? = .error error) :
    ∃ lexemes rest, ∃ fault : Fault, source = Lexeme.joined lexemes ++ rest ∧ Lexeme.SetApart lexemes rest ∧
      fault.Blocks rest ∧
      error = ⟨fault, .ofPlace (label?.getD defaultLabel)
        (fault.reportedAt (Text.byteLength (Lexeme.joined lexemes)) rest)⟩ := by
  obtain ⟨lexemes, rest, hapart, rfl, hblocks, -⟩ := tokenize_eq_error_iff.mp herror
  exact ⟨lexemes, rest, error.fault, rfl, hapart, hblocks,
    Except.error.inj (herror.symm.trans (tokenize_joined_append hapart hblocks))⟩

/-- A fault is reported at a place of the source. -/
theorem Fault.isPlace_reportedAt (fault : Fault) (front rest : Text) :
    Text.IsPlace (fault.reportedAt (Text.byteLength front) rest) (front ++ rest) := by
  cases fault with
  | unexpectedCharacter c => exact ⟨front, rest, rfl, rfl⟩
  | unterminatedBlockComment => exact ⟨front ++ rest, [], List.append_nil _, Text.byteLength_append _ rest⟩

/-- An error has the position of a place of the source. -/
theorem exists_isPlace_of_tokenize_eq_error {error : LexError} (herror : tokenize source label? = .error error) :
    ∃ place, Text.IsPlace place source ∧ error.position = .ofPlace (label?.getD defaultLabel) place := by
  obtain ⟨lexemes, rest, fault, rfl, -, -, rfl⟩ := exists_blocks_of_tokenize_eq_error herror
  exact ⟨_, fault.isPlace_reportedAt _ rest, rfl⟩

end Results

end LkLexer
