import LkLexer.Proofs.Division
import Mathlib.Data.List.Chain

/-!
# Tokens tile their source

Lexemes that are laid out one after another cover their text without gaps: each token is the slice of the
text between its own places, and it ends where the next one starts. Main statement: the tokens of an accepted
source of less than 2 ^ 32 bytes tile it from its first byte to its last (`tiles_of_tokenize_eq_ok`).
-/

namespace LkLexer

/-- Every lexeme of an arranged list is valid. -/
theorem Lexeme.Arranged.valid_of_mem {lexemes : List Lexeme} (harranged : Lexeme.Arranged lexemes)
    {lexeme : Lexeme} (hmem : lexeme ∈ lexemes) : lexeme.Valid := by
  induction lexemes with
  | nil => cases hmem
  | cons first later ih =>
    rcases List.mem_cons.mp hmem with rfl | hmem
    · exact harranged.valid_head
    · cases later with
      | nil => cases hmem
      | cons next later => exact ih harranged.2.2 hmem

namespace Token

variable {label : Text} {start : Nat} {lexemes : List Lexeme} {token : Token}

/-- A token that is laid out spans its own places. -/
theorem exists_of_mem_layOut (hmem : token ∈ layOut label start lexemes) :
    ∃ before after, before ++ token.value ++ after = Lexeme.joined lexemes ∧
      token.span =
        .between label (start + Text.byteLength before) (start + Text.byteLength (before ++ token.value)) := by
  induction lexemes generalizing start with
  | nil => cases hmem
  | cons lexeme later ih =>
    rcases List.mem_cons.mp hmem with rfl | hmem
    · exact ⟨[], Lexeme.joined later, rfl, rfl⟩
    · obtain ⟨before, after, hjoined, hspan⟩ := ih hmem
      refine ⟨lexeme.value ++ before, after, ?_, ?_⟩
      · rw [Lexeme.joined_cons, ← hjoined, List.append_assoc, List.append_assoc, List.append_assoc]
      · rw [hspan, List.append_assoc, Text.byteLength_append lexeme.value, Text.byteLength_append lexeme.value,
          Nat.add_assoc, Nat.add_assoc]

/-- The offsets of a token that is laid out below 2 ^ 32 bytes are its places. -/
theorem exists_offsets_of_mem_layOut (hlength : start + Text.byteLength (Lexeme.joined lexemes) < UInt32.size)
    (hmem : token ∈ layOut label start lexemes) :
    ∃ before after, before ++ token.value ++ after = Lexeme.joined lexemes ∧
      token.start = start + Text.byteLength before ∧ token.stop = start + Text.byteLength (before ++ token.value) := by
  obtain ⟨before, after, hjoined, hspan⟩ := exists_of_mem_layOut hmem
  rw [← hjoined, Text.byteLength_append] at hlength
  have hstop : start + Text.byteLength (before ++ token.value) < UInt32.size := by omega
  have hstart : start + Text.byteLength before < UInt32.size := by
    rw [Text.byteLength_append] at hstop
    omega
  refine ⟨before, after, hjoined, ?_, ?_⟩
  · rw [Token.start, hspan]
    exact Position.toNat_offset_ofPlace label hstart
  · rw [Token.stop, hspan]
    exact Position.toNat_offset_ofPlace label hstop

/-- The first token starts where the layout does. -/
theorem start_of_mem_head?_layOut (hfirst : token ∈ (layOut label start lexemes).head?) :
    token.span.start = .ofPlace label start := by
  cases lexemes with
  | nil => cases hfirst
  | cons lexeme later =>
    obtain rfl := Option.some.inj hfirst
    rfl

/-- The last token ends behind the bytes of all lexemes. -/
theorem stop_of_mem_getLast?_layOut (hlast : token ∈ (layOut label start lexemes).getLast?) :
    token.span.stop = .ofPlace label (start + Text.byteLength (Lexeme.joined lexemes)) := by
  induction lexemes generalizing start with
  | nil => cases hlast
  | cons lexeme later ih =>
    cases later with
    | nil =>
      have htoken : ⟨lexeme, .between label start (start + Text.byteLength lexeme.value)⟩ = token :=
        Option.some.inj hlast
      rw [← htoken, Lexeme.joined_cons, Lexeme.joined_nil, List.append_nil, Span.stop_between]
    | cons next later =>
      rw [ih hlast, Lexeme.joined_cons lexeme, Text.byteLength_append, Nat.add_assoc]

/-- Each token ends where the next one starts. -/
theorem isChain_layOut (label : Text) (start : Nat) (lexemes : List Lexeme) :
    (layOut label start lexemes).IsChain fun token next => token.span.stop = next.span.start := by
  induction lexemes generalizing start with
  | nil => exact List.IsChain.nil
  | cons lexeme later ih =>
    exact List.isChain_cons.mpr ⟨fun next hnext => (start_of_mem_head?_layOut hnext).symm, ih _⟩

/-- The tokens cover the source: nothing is left out, nothing is covered twice, and no token is empty. -/
structure Tiles (tokens : List Token) (source : Text) : Prop where
  values : tokens.flatMap (·.value) = source
  nonempty : ∀ token ∈ tokens, token.start < token.stop
  places : ∀ token ∈ tokens, Text.IsPlace token.start source ∧ Text.IsPlace token.stop source
  slices : ∀ token ∈ tokens, Text.slice? token.start token.stop source = some token.value
  adjacent : tokens.IsChain fun token next => token.stop = next.start
  first : ∀ token ∈ tokens.head?, token.start = 0
  last : ∀ token ∈ tokens.getLast?, token.stop = Text.byteLength source
  nil_iff : tokens = [] ↔ source = []

/-- There are no tokens exactly when valid lexemes have no text. -/
theorem layOut_eq_nil_iff (hvalid : ∀ lexeme ∈ lexemes, lexeme.Valid) :
    layOut label start lexemes = [] ↔ Lexeme.joined lexemes = [] := by
  cases lexemes with
  | nil => exact iff_of_true rfl rfl
  | cons lexeme later =>
    have hne := (hvalid lexeme List.mem_cons_self).value_ne_nil
    simp [layOut, hne]

/-- Valid lexemes of less than 2 ^ 32 bytes that are laid out from the beginning tile their text. -/
theorem tiles_layOut (hlength : Text.byteLength (Lexeme.joined lexemes) < UInt32.size)
    (hvalid : ∀ lexeme ∈ lexemes, lexeme.Valid) : Tiles (layOut label 0 lexemes) (Lexeme.joined lexemes) where
  values := by
    rw [← List.flatMap_map, ← Lexeme.joined]
    exact congrArg Lexeme.joined (lexemes_layOut label 0 lexemes)
  nonempty := by
    intro token hmem
    have hlexeme : token.toLexeme ∈ lexemes := by
      rw [← lexemes_layOut label 0 lexemes]
      exact List.mem_map_of_mem hmem
    have hpos : Text.byteLength token.value ≠ 0 :=
      mt (Text.byteLength_eq_zero_iff token.value).mp (hvalid _ hlexeme).value_ne_nil
    obtain ⟨before, after, -, hstart, hstop⟩ := exists_offsets_of_mem_layOut ((Nat.zero_add _).symm ▸ hlength) hmem
    rw [hstart, hstop, Text.byteLength_append]
    omega
  places := by
    intro token hmem
    obtain ⟨before, after, hjoined, hstart, hstop⟩ :=
      exists_offsets_of_mem_layOut ((Nat.zero_add _).symm ▸ hlength) hmem
    rw [Nat.zero_add] at hstart hstop
    exact ⟨⟨before, token.value ++ after, by rw [← List.append_assoc, hjoined], hstart.symm⟩,
      ⟨before ++ token.value, after, hjoined, hstop.symm⟩⟩
  slices := by
    intro token hmem
    obtain ⟨before, after, hjoined, hstart, hstop⟩ :=
      exists_offsets_of_mem_layOut ((Nat.zero_add _).symm ▸ hlength) hmem
    rw [Nat.zero_add] at hstart hstop
    exact (Text.slice?_eq_some_iff _ _ _ _).mpr ⟨before, after, hjoined, hstart.symm, hstop.symm⟩
  adjacent := (isChain_layOut label 0 lexemes).imp fun _ _ hmeet => congrArg (·.offset.toNat) hmeet
  first := by
    intro token hfirst
    rw [Token.start, start_of_mem_head?_layOut hfirst]
    rfl
  last := by
    intro token hlast
    rw [Token.stop, stop_of_mem_getLast?_layOut hlast, Nat.zero_add]
    exact Position.toNat_offset_ofPlace label hlength
  nil_iff := layOut_eq_nil_iff hvalid

end Token

/-- The tokens of an accepted source tile it. -/
theorem tiles_of_tokenize_eq_ok {source : Text} {label? : Option Text} {tokens : List Token}
    (hlength : Text.byteLength source < UInt32.size) (hok : tokenize source label? = .ok tokens) :
    Token.Tiles tokens source := by
  obtain ⟨lexemes, harranged, rfl, rfl⟩ := tokenize_eq_ok_iff.mp hok
  exact Token.tiles_layOut hlength fun lexeme hmem => harranged.valid_of_mem hmem

/-- A word, a comment that holds a character of two bytes and a newline tile eight bytes. -/
theorem tiles_word_comment_newline :
    let source := "a/*é*/\n".toList
    let tokens : List Token :=
      [⟨⟨.identifier, "a".toList⟩, .between defaultLabel 0 1⟩,
       ⟨⟨.blockComment, "/*é*/".toList⟩, .between defaultLabel 1 7⟩,
       ⟨⟨.newline, "\n".toList⟩, .between defaultLabel 7 8⟩]
    Text.byteLength source < UInt32.size ∧ tokenize source none = .ok tokens ∧ Token.Tiles tokens source := by
  intro source tokens
  have hlength : Text.byteLength source < UInt32.size := by decide +kernel
  have hok : tokenize source none = .ok tokens := by decide +kernel
  exact ⟨hlength, hok, tiles_of_tokenize_eq_ok hlength hok⟩

end LkLexer
