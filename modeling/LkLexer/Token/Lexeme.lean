import LkLexer.Token.CharClass
import LkLexer.Token.Kind

/-!
# Lexemes

A lexeme is a kind of token together with the characters it is written with. This module says which
characters each kind is written with, and which lexemes can stand next to each other without running
together. It describes the language by itself; how a source is divided is not its concern.
-/

namespace LkLexer

/-- What opens a comment that goes on to the end of its line. -/
def lineOpening : Text := ['/', '/']

/-- What opens a comment that goes on until it is closed. -/
def blockOpening : Text := ['/', '*']

/-- What closes a comment that may go over several lines. -/
def blockClosing : Text := ['*', '/']

/-- A kind of token with the characters of one. -/
structure Lexeme where
  kind : Kind
  value : Text
deriving DecidableEq

namespace Lexeme

/-- The characters are ones with which the kind is written. -/
def Valid (lexeme : Lexeme) : Prop :=
  match lexeme.kind with
  | .openCurly => lexeme.value = ['{']
  | .closeCurly => lexeme.value = ['}']
  | .openParen => lexeme.value = ['(']
  | .closeParen => lexeme.value = [')']
  | .colon => lexeme.value = [':']
  | .arrow => lexeme.value = ['-', '>']
  | .equals => lexeme.value = ['=']
  | .notEquals => lexeme.value = ['!', '=']
  | .and => lexeme.value = ['&']
  | .or => lexeme.value = ['|']
  | .newline => lexeme.value = ['\n']
  | .identifier => lexeme.value ≠ [] ∧ ∀ c ∈ lexeme.value, CharClass.word.contains c
  | .whitespace => lexeme.value ≠ [] ∧ ∀ c ∈ lexeme.value, CharClass.blank.contains c
  | .comment => ∃ body, lexeme.value = lineOpening ++ body ∧ ∀ c ∈ body, Text.isInline c
  | .blockComment => ∃ body, lexeme.value = blockOpening ++ body ++ blockClosing ∧ ¬blockClosing <:+: body

/-- The second lexeme cannot be taken for a continuation of the first. -/
def MayPrecede (first second : Lexeme) : Prop :=
  match first.kind with
  | .identifier => second.kind ≠ .identifier
  | .whitespace => second.kind ≠ .whitespace
  | .comment => second.kind = .newline
  | _ => True

/-- Lexemes that are written as their kinds are, none of which runs into the next. -/
def Arranged : List Lexeme → Prop
  | [] => True
  | [lexeme] => lexeme.Valid
  | lexeme :: next :: later => lexeme.Valid ∧ lexeme.MayPrecede next ∧ Arranged (next :: later)

/-- The text of lexemes, one after another. -/
def joined (lexemes : List Lexeme) : Text :=
  lexemes.flatMap (·.value)

end Lexeme

end LkLexer
