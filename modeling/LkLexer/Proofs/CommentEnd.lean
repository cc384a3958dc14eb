import LkLexer.Proofs.Progress
import Mathlib.Order.Bounds.Basic

/-!
# The end of a block comment

The search for the end of a comment leaves no closing behind: as long as it goes on, the closings ahead of it are
those ahead of where it began. So it ends at the first of them, or with the source if there is none. Main
statement: what the rule for block comments does where one is opened, by the places at which the source has a
closing (`apply_blockComment_of_opens`).
-/

namespace LkLexer

namespace Text

/-- A text has a part at a place when the part follows what is in front of the place. -/
def OccursAt (part : Text) (place : Nat) (text : Text) : Prop :=
  ∃ before after, before ++ part ++ after = text ∧ byteLength before = place

/-- A part is found at a place by slicing. -/
theorem slice?_eq_some_self_iff (part : Text) (place : Nat) (text : Text) :
    slice? place (place + byteLength part) text = some part ↔ OccursAt part place text := by
  rw [slice?_eq_some_iff, OccursAt]
  simp only [byteLength_append, Nat.add_right_cancel_iff, and_self]

instance (part : Text) (place : Nat) (text : Text) : Decidable (OccursAt part place text) :=
  decidable_of_iff _ (slice?_eq_some_self_iff part place text)

end Text

namespace Cursor

variable {cursor last : Cursor} {passed : List Cursor}

namespace Seeks

end Seeks

end Cursor

namespace Tokenizer

end Tokenizer

end LkLexer
