import LkLexer.Text.Basic

/-!
# Lines and columns

A line of a text runs up to and including its newline. A place is looked for line by line, and what lies on
none of the lines is the end of the text: it is on the last line or, when that one has a newline or when there
is none, on one more line that is empty. Lines are counted from one, columns in bytes from zero.
-/

namespace LkLexer.Text

/-- Where a place is: the number of its line, the text of that line and the bytes before it on the line. -/
structure Location where
  line : Nat
  text : Text
  column : Nat
deriving DecidableEq

/-- Whether a character does not end its line. -/
def isInline (c : Char) : Bool :=
  c ≠ '\n'

/-- A text split behind each newline. Nothing follows the last newline unless there are characters behind it. -/
def pieces : Text → List Text
  | [] => []
  | c :: text =>
    if c = '\n' then [c] :: pieces text
    else
      match pieces text with
      | [] => [[c]]
      | piece :: later => (c :: piece) :: later

/-- The location of a place on one of some pieces, of which the first has a start and a line number. -/
def locateAmong? (place start line : Nat) : List Text → Option Location
  | [] => none
  | piece :: later =>
    if start ≤ place ∧ place < start + byteLength piece then some ⟨line, piece, place - start⟩
    else locateAmong? place (start + byteLength piece) (line + 1) later

/-- What a text has behind its last newline, if it has a newline. -/
def behindNewline? (text : Text) : Option Text :=
  if '\n' ∈ text then some (text.reverse.takeWhile isInline).reverse else none

/-- The location of the end of a text, with the number that a line behind all pieces has. -/
def locateEnd (line : Nat) (text : Text) : Location :=
  if text = [] ∨ text.getLast? = some '\n' then ⟨line, [], 0⟩
  else
    match behindNewline? text with
    | some last => ⟨line - 1, last, byteLength last⟩
    | none => ⟨1, text, byteLength text⟩

/-- The location of a number of bytes in a text; a number past the end counts as the end. -/
def locate (text : Text) (place : Nat) : Location :=
  match locateAmong? (min place (byteLength text)) 0 1 (pieces text) with
  | some location => location
  | none => locateEnd (1 + (pieces text).length) text

/-- The location of an offset in a text. -/
def lookUp (text : Text) (offset : UInt32) : Location :=
  locate text offset.toNat

end LkLexer.Text
