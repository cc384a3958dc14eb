import LkLexer.LexError
import LkLexer.Text.Location
import LkLexer.Unicode.WhiteSpace

/-!
# Diagnostics

A diagnostic names the fault, gives the path as the user wrote it and shows the line at fault with a caret
below it. Indentation and trailing white space of the line are left out, and the caret moves with what
remains: it stands under the character at the offset of the error.
-/

namespace LkLexer.Diagnostic

/-- Whether a character indents a line. -/
def isIndent (c : Char) : Bool :=
  c = ' ' || c = '\t'

/-- A text without the white space at its end. -/
def trimEnd (text : Text) : Text :=
  (text.reverse.dropWhile Unicode.isWhiteSpace).reverse

/-- The first line of a diagnostic: the name of the fault, with the tip in brackets if there is one. -/
def headline (name : Text) : Tip → Text
  | .none => "Error: ".toList ++ name
  | .suggestion tip => "Error: ".toList ++ name ++ " (".toList ++ tip ++ [')']

/-- The bar that continues the gutter of a numbered line, below or above its own. -/
def gutter (line : Nat) : Text :=
  List.replicate ((Text.decimal line).length + 1) ' ' ++ ['|']

/-- The line at fault as it is shown, with its number. -/
def shownLine (place : Text.Location) : Text :=
  Text.decimal place.line ++ " | ".toList ++ trimEnd (place.text.dropWhile isIndent)

/-- The caret, after a dash for each character that is shown before the place. -/
def caret (indent before : Nat) : Text :=
  List.replicate (before - indent) '-' ++ ['^']

/-- The diagnostic of an error in a source; none when its offset is inside a character. -/
def render? (error : LexError) (path source : Text) : Option Text :=
  let place := Text.lookUp source error.position.offset
  (Text.cut? place.column place.text).map fun (before, _) =>
    let indent := (place.text.takeWhile isIndent).length
    [headline error.fault.name error.fault.tip, "-> ".toList ++ path, gutter place.line, shownLine place,
      gutter place.line ++ ' ' :: caret indent before.length].flatMap (· ++ ['\n'])

end LkLexer.Diagnostic
