import LkLexer.Token.Basic

/-!
# Laying out lexemes

Lexemes put one after another, without gaps, take up ranges that only their byte lengths decide. Main
statements: laying out a list in two parts (`layOut_append`), and from a later place (`layOut_add`).
-/

namespace LkLexer.Token

/-- The tokens that lexemes become when they follow one another from a place on. -/
def layOut (label : Text) (start : Nat) : List Lexeme → List Token
  | [] => []
  | lexeme :: later =>
    ⟨lexeme, .between label start (start + Text.byteLength lexeme.value)⟩ ::
      layOut label (start + Text.byteLength lexeme.value) later

/-- Laying out keeps the lexemes. -/
@[simp] theorem lexemes_layOut (label : Text) (start : Nat) (list : List Lexeme) :
    lexemes (layOut label start list) = list := by
  induction list generalizing start with
  | nil => rfl
  | cons lexeme later ih => exact congrArg (lexeme :: ·) (ih _)

/-- What holds of the last lexeme holds of that of the last token. -/
theorem forall_mem_getLast?_lexemes_iff (tokens : List Token) (holds : Lexeme → Prop) :
    (∀ last ∈ (lexemes tokens).getLast?, holds last) ↔ ∀ last ∈ tokens.getLast?, holds last.toLexeme := by
  simp [lexemes, List.getLast?_map]

/-- The second part of a list is laid out from where the first one ends. -/
theorem layOut_append (label : Text) (start : Nat) (front back : List Lexeme) :
    layOut label start (front ++ back) =
      layOut label start front ++ layOut label (start + Text.byteLength (Lexeme.joined front)) back := by
  induction front generalizing start with
  | nil => simp [layOut, Lexeme.joined]
  | cons lexeme later ih => simp [layOut, ih, Lexeme.joined, Nat.add_assoc]

/-- Laying out from a later place moves every token. -/
theorem layOut_add (label : Text) (start count : Nat) (list : List Lexeme) :
    layOut label (start + count) list = (layOut label start list).map (shift count) := by
  induction list generalizing start with
  | nil => rfl
  | cons lexeme later ih =>
    simp only [layOut, List.map_cons, shift, ← ih, ← Span.between_add]
    rw [Nat.add_right_comm]

end LkLexer.Token
