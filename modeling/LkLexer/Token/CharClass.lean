import LkLexer.Text.Location
import LkLexer.Unicode.WhiteSpace

/-!
# Classes of characters

Words and blanks are runs of characters of one class. Main statement: no character is in two classes
(`blank_contains_of_word_contains`), so that such a run has one reading.
-/

namespace LkLexer

/-- The classes of characters that tokens of any length are made of. -/
inductive CharClass where
  | word
  | blank
deriving DecidableEq

namespace CharClass

/-- Words are made of ASCII letters, digits and the underscore; blanks are white space within a line. -/
def contains : CharClass → Char → Bool
  | word, c => 'A' ≤ c ∧ c ≤ 'Z' ∨ 'a' ≤ c ∧ c ≤ 'z' ∨ '0' ≤ c ∧ c ≤ '9' ∨ c = '_'
  | blank, c => Unicode.isWhiteSpace c && Text.isInline c

/-- The code points of the characters of words. -/
theorem toNat_of_word_contains {c : Char} (hword : word.contains c = true) :
    65 ≤ c.toNat ∧ c.toNat ≤ 90 ∨ 97 ≤ c.toNat ∧ c.toNat ≤ 122 ∨ 48 ≤ c.toNat ∧ c.toNat ≤ 57 ∨ c.toNat = 95 := by
  simp only [contains, decide_eq_true_eq, Char.le_def, UInt32.le_iff_toNat_le] at hword
  rcases hword with hupper | hlower | hdigit | rfl
  · exact Or.inl hupper
  · exact Or.inr (Or.inl hlower)
  · exact Or.inr (Or.inr (Or.inl hdigit))
  · decide

/-- No character is in both classes. -/
theorem blank_contains_of_word_contains {c : Char} (hword : word.contains c = true) :
    blank.contains c = false := by
  have hcode := toNat_of_word_contains hword
  have hgap : ∀ range ∈ Unicode.whiteSpaceRanges, range.last < 48 ∨ 122 < range.first := by decide
  have hspace : Unicode.isWhiteSpace c = false := by
    rw [Unicode.isWhiteSpace, Bool.eq_false_iff, Ne, Unicode.inRanges_iff Unicode.ascending_whiteSpaceRanges]
    intro hrange
    obtain ⟨range, hmem, hfirst, hlast⟩ := hrange
    have := hgap range hmem
    omega
  simp [contains, hspace]

end CharClass

end LkLexer
