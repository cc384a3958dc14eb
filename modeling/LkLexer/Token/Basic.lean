import LkLexer.Position
import LkLexer.Text.Quoted
import LkLexer.Token.Lexeme

/-!
# Tokens

A token is a lexeme with the span that it covers in a source. Nothing here ties the characters to the span; the
tokens of a source are built by the tokenizer, which does.
-/

namespace LkLexer

/-- A lexeme and where it stands. -/
structure Token extends Lexeme where
  span : Span
deriving DecidableEq

namespace Token

/-- Whether a token may be stepped over. -/
def isTrivia (token : Token) : Bool :=
  token.kind.isTrivia

/-- The offset at which a token starts. -/
def start (token : Token) : Nat :=
  token.span.start.offset.toNat

/-- The offset behind the last byte of a token. -/
def stop (token : Token) : Nat :=
  token.span.stop.offset.toNat

/-- A token in a listing: its kind, its characters quoted, and its range. -/
def listing (token : Token) : Text :=
  token.kind.name ++ " (".toList ++ Text.quote token.value ++ ") ".toList ++
    Text.decimal token.start ++ "..".toList ++ Text.decimal token.stop

/-- The labels that tokens bear at either end, each once, in the order in which they are first borne. -/
def labels (tokens : List Token) : List Text :=
  (tokens.flatMap fun token => [token.span.start.label, token.span.stop.label]).eraseDups

/-- The lexemes of tokens. -/
def lexemes (tokens : List Token) : List Lexeme :=
  tokens.map Token.toLexeme

/-- A token moved forward by a number of bytes. -/
def shift (count : Nat) (token : Token) : Token :=
  { token with span := token.span.shift count }

/-- A token moved back by a number of bytes. -/
def unshift (count : Nat) (token : Token) : Token :=
  { token with span := token.span.unshift count }

end Token

end LkLexer
