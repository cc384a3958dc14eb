import LkLexer.Proofs.Division

/-!
# When a source is refused

A source is refused at the first place that its accepted front leaves and at which no token can be taken. A
line comment at the end of the front would go on, so such a front counts for neither fault; a word or a blank
would not, as neither fault stands at a character of these classes (`setApart_iff_of_blocks`). Main
statement: both faults, each with the exact condition, the place and the label (`tokenize_eq_fault_iff`).
-/

namespace LkLexer

/-- A fault stands at a character that goes on neither a word nor a blank, but any line. -/
theorem Fault.Blocks.exists_cons {fault : Fault} {rest : Text} (hblocks : fault.Blocks rest) :
    ∃ c after, rest = c :: after ∧ CharClass.word.contains c = false ∧ CharClass.blank.contains c = false ∧
      Text.isInline c = true := by
  cases fault with
  | unexpectedCharacter c =>
    obtain ⟨after, rfl, hword, hspace, -⟩ := hblocks
    obtain ⟨hnewline, hblank⟩ := (CharClass.isWhiteSpace_eq_false_iff c).mp hspace
    exact ⟨c, after, rfl, hword, hblank, decide_eq_true hnewline⟩
  | unterminatedBlockComment =>
    obtain ⟨body, rfl, -⟩ := hblocks
    exact ⟨'/', '*' :: body, rfl, by decide, by decide, by decide⟩

/-- Only a line comment goes on into a fault. -/
theorem Fault.Blocks.stopsBefore_iff {fault : Fault} {rest : Text} (hblocks : fault.Blocks rest) (kind : Kind) :
    kind.StopsBefore rest ↔ kind ≠ .comment := by
  obtain ⟨c, after, rfl, hword, hblank, hinline⟩ := hblocks.exists_cons
  rw [Kind.stopsBefore_cons]
  cases kind with
  | identifier => exact iff_of_true hword (by decide)
  | whitespace => exact iff_of_true hblank (by decide)
  | comment => exact iff_of_false (by rw [Kind.continuesWith, hinline]; decide) (by decide)
  | _ => exact iff_of_true rfl (by decide)

/-- Lexemes stand apart from a fault when they are arranged and do not end in a line comment. -/
theorem Lexeme.setApart_iff_of_blocks {fault : Fault} {rest : Text} (hblocks : fault.Blocks rest)
    (lexemes : List Lexeme) :
    SetApart lexemes rest ↔ Arranged lexemes ∧ ∀ last ∈ lexemes.getLast?, last.kind ≠ .comment := by
  simp only [setApart_iff, hblocks.stopsBefore_iff]

/-- A text that is accepted and does not end in a line comment. -/
def AcceptedClosed (label? : Option Text) (front : Text) : Prop :=
  ∃ tokens, tokenize front label? = .ok tokens ∧ ∀ last ∈ tokens.getLast?, last.kind ≠ .comment

/-- Such a text is that of lexemes which are arranged and do not end in a line comment. -/
theorem acceptedClosed_iff (label? : Option Text) (front : Text) :
    AcceptedClosed label? front ↔
      ∃ lexemes, Lexeme.Arranged lexemes ∧ Lexeme.joined lexemes = front ∧
        ∀ last ∈ lexemes.getLast?, last.kind ≠ .comment := by
  have hlast (tokens : List Token) :
      (∀ last ∈ tokens.getLast?, last.kind ≠ .comment) ↔
        ∀ last ∈ (Token.lexemes tokens).getLast?, last.kind ≠ .comment :=
    (Token.forall_mem_getLast?_lexemes_iff tokens fun last => last.kind ≠ .comment).symm
  refine ⟨fun haccepted => ?_, fun hlexemes => ?_⟩
  · obtain ⟨tokens, hok, hclosed⟩ := haccepted
    obtain ⟨lexemes, harranged, hjoined, rfl⟩ := tokenize_eq_ok_iff.mp hok
    rw [hlast, Token.lexemes_layOut] at hclosed
    exact ⟨lexemes, harranged, hjoined, hclosed⟩
  · obtain ⟨lexemes, harranged, rfl, hclosed⟩ := hlexemes
    refine ⟨_, tokenize_joined harranged, ?_⟩
    rw [hlast, Token.lexemes_layOut]
    exact hclosed

/-- A source is refused for a fault exactly when that fault stands behind a front which is accepted closed. -/
theorem tokenize_eq_error_iff_acceptedClosed {source : Text} {label? : Option Text} {error : LexError} :
    tokenize source label? = .error error ↔
      ∃ front rest, AcceptedClosed label? front ∧ front ++ rest = source ∧ error.fault.Blocks rest ∧
        error.position = .ofPlace (label?.getD defaultLabel)
          (error.fault.reportedAt (Text.byteLength front) rest) := by
  rw [tokenize_eq_error_iff]
  refine ⟨fun hlexemes => ?_, fun hfront => ?_⟩
  · obtain ⟨lexemes, rest, hapart, hsource, hblocks, hreported⟩ := hlexemes
    obtain ⟨harranged, hclosed⟩ := (Lexeme.setApart_iff_of_blocks hblocks lexemes).mp hapart
    have haccepted := (acceptedClosed_iff label? _).mpr ⟨lexemes, harranged, rfl, hclosed⟩
    exact ⟨_, rest, haccepted, hsource, hblocks, hreported⟩
  · obtain ⟨front, rest, haccepted, hsource, hblocks, hreported⟩ := hfront
    obtain ⟨lexemes, harranged, rfl, hclosed⟩ := (acceptedClosed_iff _ _).mp haccepted
    have hapart := (Lexeme.setApart_iff_of_blocks hblocks lexemes).mpr ⟨harranged, hclosed⟩
    exact ⟨lexemes, rest, hapart, hsource, hblocks, hreported⟩

/-- A source is refused for a character exactly when the text before it is accepted closed and it begins no
lexeme, and for a comment exactly when one is opened behind such a text and never closed. The offset is that
of the character, or of the end of the source, and the label is the one given. Below 2 ^ 32 bytes an offset is the
number of bytes that it stands for. -/
theorem tokenize_eq_fault_iff (source : Text) (label? : Option Text) (offset : UInt32) (label : Text) :
    (∀ c, tokenize source label? = .error ⟨.unexpectedCharacter c, offset, label⟩ ↔
      label = label?.getD defaultLabel ∧
        ∃ front after, front ++ c :: after = source ∧ UInt32.ofNat (Text.byteLength front) = offset ∧
          AcceptedClosed label? front ∧ StartsNothing c after) ∧
    (tokenize source label? = .error ⟨.unterminatedBlockComment, offset, label⟩ ↔
      label = label?.getD defaultLabel ∧ offset = UInt32.ofNat (Text.byteLength source) ∧
        ∃ front body, front ++ blockOpening ++ body = source ∧
          AcceptedClosed label? front ∧ ¬blockClosing <:+: body) ∧
    (Text.byteLength source < UInt32.size → ∀ front back, front ++ back = source →
      (UInt32.ofNat (Text.byteLength front)).toNat = Text.byteLength front) := by
  refine ⟨fun c => ?_, ?_, fun hlength front back hsource => ?_⟩
  · rw [tokenize_eq_error_iff_acceptedClosed]
    refine ⟨fun hfault => ?_, fun hfront => ?_⟩
    · obtain ⟨front, rest, haccepted, hsource, ⟨after, rfl, hnothing⟩, hposition⟩ := hfault
      obtain ⟨hoffset, hlabel⟩ := (Position.mk.injEq _ _ _ _).mp hposition
      exact ⟨hlabel, front, after, hsource, hoffset.symm, haccepted, hnothing⟩
    · obtain ⟨rfl, front, after, hsource, rfl, haccepted, hnothing⟩ := hfront
      exact ⟨front, c :: after, haccepted, hsource, ⟨after, rfl, hnothing⟩, rfl⟩
  · rw [tokenize_eq_error_iff_acceptedClosed]
    refine ⟨fun hfault => ?_, fun hfront => ?_⟩
    · obtain ⟨front, rest, haccepted, rfl, ⟨body, rfl, hbody⟩, hposition⟩ := hfault
      obtain ⟨hoffset, hlabel⟩ := (Position.mk.injEq _ _ _ _).mp hposition
      refine ⟨hlabel, ?_, front, body, ?_, haccepted, hbody⟩
      · rw [hoffset, Text.byteLength_append]
        rfl
      · rw [List.append_assoc]
    · obtain ⟨rfl, rfl, front, body, rfl, haccepted, hbody⟩ := hfront
      refine ⟨front, blockOpening ++ body, haccepted, (List.append_assoc _ _ _).symm, ⟨body, rfl, hbody⟩, ?_⟩
      rw [List.append_assoc, Text.byteLength_append]
      rfl
  · exact Position.toNat_offset_ofPlace_of_isPlace label hlength ⟨front, back, hsource, rfl⟩

end LkLexer
