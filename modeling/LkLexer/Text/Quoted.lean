import LkLexer.Text.Basic
import LkLexer.Unicode.DefaultIgnorable
import LkLexer.Unicode.ExtendingMark
import LkLexer.Unicode.Unprintable

/-!
# Quoted characters and texts

Diagnostics and token listings show characters between single quotes and texts between double quotes, so
that each one can be told from every other and stays on its line. A character that would end the quotation,
could be taken for an escape or leaves no mark of its own is escaped; all others stand for themselves.
-/

namespace LkLexer.Text

/-- A code point in braces, in lower-case hexadecimal. -/
def escapeCodePoint (c : Char) : Text :=
  ['\\', 'u', '\x7b'] ++ hexadecimal c.toNat ++ ['\x7d']

/-- Whether a character leaves a mark of its own, and so can be shown as it is. -/
def isVisible (c : Char) : Bool :=
  !(Unicode.isExtendingMark c || Unicode.isDefaultIgnorable c || Unicode.isUnprintable c)

/-- A character as it stands between two of the delimiters. -/
def escape (delimiter c : Char) : Text :=
  if c = '\x00' then ['\\', '0']
  else if c = '\t' then ['\\', 't']
  else if c = '\r' then ['\\', 'r']
  else if c = '\n' then ['\\', 'n']
  else if c = '\\' ∨ c = delimiter then ['\\', c]
  else if isVisible c then [c]
  else escapeCodePoint c

/-- A character between single quotes. -/
def quoteChar (c : Char) : Text :=
  '\'' :: escape '\'' c ++ ['\'']

/-- A text between double quotes. -/
def quote (text : Text) : Text :=
  '"' :: text.flatMap (escape '"') ++ ['"']

end LkLexer.Text
