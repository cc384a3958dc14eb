import LkLexer.Proofs.Division

/-!
# Texts and lexemes determine each other

The arranged lists of lexemes are exactly those that the tokenizer gives. Main statements: such a list is
read back from its text, every token in the place that the bytes before it leave
(`exists_tokenize_joined_eq_ok`), and the tokens of every accepted source are arranged: each is written as
its kind is, and none could be taken for a continuation of the one before it (`arranged_of_tokenize_eq_ok`).
-/

namespace LkLexer

/-- A token that is laid out covers the bytes between those of the lexemes before it and its own. -/
theorem Token.span_getElem_layOut (label : Text) (start : Nat) (lexemes : List Lexeme) (i : Nat)
    (hi : i < (layOut label start lexemes).length) :
    (layOut label start lexemes)[i].span =
      .between label (start + Text.byteLength (Lexeme.joined (lexemes.take i)))
        (start + Text.byteLength (Lexeme.joined (lexemes.take (i + 1)))) := by
  induction lexemes generalizing start i with
  | nil => cases hi
  | cons lexeme later ih =>
    cases i with
    | zero => simp [layOut]
    | succ i =>
      have htail := ih (start + Text.byteLength lexeme.value) i (Nat.lt_of_succ_lt_succ hi)
      simp only [layOut, List.getElem_cons_succ, htail, List.take_succ_cons, Lexeme.joined_cons,
        Text.byteLength_append, Nat.add_assoc]

/-- The first lexemes take no more bytes than all of them. -/
theorem Lexeme.byteLength_joined_take_le (lexemes : List Lexeme) (count : Nat) :
    Text.byteLength (joined (lexemes.take count)) ≤ Text.byteLength (joined lexemes) := by
  have hparts := congrArg joined (List.take_append_drop count lexemes)
  rw [← hparts, joined_append, Text.byteLength_append]
  exact Nat.le_add_right _ _

/-- Arranged lexemes are read back from their text: the same kinds and values in the same order, each in the
place that the bytes of the values before it leave. Below 2 ^ 32 bytes the offsets of the tokens are these places. -/
theorem exists_tokenize_joined_eq_ok {lexemes : List Lexeme} (harranged : Lexeme.Arranged lexemes)
    (label? : Option Text) :
    ∃ tokens, tokenize (Lexeme.joined lexemes) label? = .ok tokens ∧ Token.lexemes tokens = lexemes ∧
      (∀ i (hi : i < tokens.length), tokens[i].span =
        .between (label?.getD defaultLabel) (Text.byteLength (Lexeme.joined (lexemes.take i)))
          (Text.byteLength (Lexeme.joined (lexemes.take (i + 1))))) ∧
      (Text.byteLength (Lexeme.joined lexemes) < UInt32.size → ∀ i (hi : i < tokens.length),
        tokens[i].start = Text.byteLength (Lexeme.joined (lexemes.take i)) ∧
          tokens[i].stop = Text.byteLength (Lexeme.joined (lexemes.take (i + 1)))) := by
  let tokens := Token.layOut (label?.getD defaultLabel) 0 lexemes
  have hspan (i : Nat) (hi : i < tokens.length) := Token.span_getElem_layOut (label?.getD defaultLabel) 0 lexemes i hi
  simp only [Nat.zero_add] at hspan
  refine ⟨tokens, tokenize_joined harranged, Token.lexemes_layOut _ _ lexemes, hspan, fun hlength i hi => ?_⟩
  have hfits (count : Nat) := Nat.lt_of_le_of_lt (Lexeme.byteLength_joined_take_le lexemes count) hlength
  rw [Token.start, Token.stop, hspan i hi]
  exact ⟨Position.toNat_offset_ofPlace _ (hfits i), Position.toNat_offset_ofPlace _ (hfits (i + 1))⟩

/-- Operators that overlap and comments that hold openings are read back. -/
theorem exists_tokenize_joined_operators_comments :
    let lexemes : List Lexeme :=
      [⟨.notEquals, "!=".toList⟩, ⟨.equals, "=".toList⟩, ⟨.blockComment, "/*/é**/".toList⟩,
       ⟨.comment, "///*".toList⟩, ⟨.newline, "\n".toList⟩, ⟨.whitespace, " \t".toList⟩]
    Lexeme.Arranged lexemes ∧ Text.byteLength (Lexeme.joined lexemes) < UInt32.size ∧
      ∃ tokens, tokenize (Lexeme.joined lexemes) none = .ok tokens ∧ Token.lexemes tokens = lexemes ∧
        ∀ i (hi : i < tokens.length), tokens[i].start = Text.byteLength (Lexeme.joined (lexemes.take i)) ∧
          tokens[i].stop = Text.byteLength (Lexeme.joined (lexemes.take (i + 1))) := by
  intro lexemes
  have harranged : Lexeme.Arranged lexemes := by
    have hinline : ∀ c ∈ "/*".toList, Text.isInline c = true := List.all_eq_true.mp (by decide)
    have hblank : ∀ c ∈ " \t".toList, CharClass.blank.contains c = true := List.all_eq_true.mp (by decide)
    exact ⟨rfl, trivial, rfl, trivial, ⟨"/é*".toList, rfl, by decide⟩, trivial, ⟨"/*".toList, rfl, hinline⟩,
      rfl, rfl, trivial, by decide, hblank⟩
  have hlength : Text.byteLength (Lexeme.joined lexemes) < UInt32.size := by decide +kernel
  obtain ⟨tokens, hok, hlexemes, -, hoffsets⟩ := exists_tokenize_joined_eq_ok harranged none
  exact ⟨harranged, hlength, tokens, hok, hlexemes, hoffsets hlength⟩

/-- The tokens of an accepted source are arranged. -/
theorem arranged_of_tokenize_eq_ok {source : Text} {label? : Option Text} {tokens : List Token}
    (hok : tokenize source label? = .ok tokens) : Lexeme.Arranged (Token.lexemes tokens) := by
  obtain ⟨lexemes, harranged, -, rfl⟩ := tokenize_eq_ok_iff.mp hok
  rw [Token.lexemes_layOut]
  exact harranged

/-- A blank behind a newline and a comment at the end are arranged as they are read. -/
theorem arranged_newline_blank_comment :
    let tokens : List Token :=
      [⟨⟨.newline, "\n".toList⟩, .between defaultLabel 0 1⟩,
       ⟨⟨.whitespace, " \u00a0".toList⟩, .between defaultLabel 1 4⟩,
       ⟨⟨.comment, "//é*/".toList⟩, .between defaultLabel 4 10⟩]
    tokenize "\n \u00a0//é*/".toList none = .ok tokens ∧ Lexeme.Arranged (Token.lexemes tokens) := by
  intro tokens
  have hok : tokenize "\n \u00a0//é*/".toList none = .ok tokens := by decide +kernel
  exact ⟨hok, arranged_of_tokenize_eq_ok hok⟩

end LkLexer
