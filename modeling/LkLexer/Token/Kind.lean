import LkLexer.Text.Basic

/-!
# Kinds of tokens

The classes into which a source is divided. Main statement: a kind can be told from its name
(`name_injective`).
-/

namespace LkLexer

/-- The classes of tokens. -/
inductive Kind where
  | identifier
  | openCurly
  | closeCurly
  | openParen
  | closeParen
  | colon
  | arrow
  | equals
  | notEquals
  | and
  | or
  | comment
  | blockComment
  | newline
  | whitespace
deriving DecidableEq

namespace Kind

/-- The name under which a kind is listed. -/
def name : Kind → Text
  | identifier => "Identifier".toList
  | openCurly => "OpenCurly".toList
  | closeCurly => "CloseCurly".toList
  | openParen => "OpenParen".toList
  | closeParen => "CloseParen".toList
  | colon => "Colon".toList
  | arrow => "Arrow".toList
  | equals => "Equals".toList
  | notEquals => "NotEquals".toList
  | and => "And".toList
  | or => "Or".toList
  | comment => "Comment".toList
  | blockComment => "BlockComment".toList
  | newline => "Newline".toList
  | whitespace => "Whitespace".toList

/-- All kinds, each once. -/
def all : List Kind :=
  [identifier, openCurly, closeCurly, openParen, closeParen, colon, arrow, equals, notEquals, and, or, comment,
   blockComment, newline, whitespace]

/-- The kind with a given name. -/
def ofName? (text : Text) : Option Kind :=
  all.find? fun kind => kind.name = text

/-- Comments, blanks and newlines: what a reader of the language may step over. -/
def isTrivia (kind : Kind) : Bool :=
  kind ∈ [comment, blockComment, newline, whitespace]

/-- A kind is found again by its name. -/
theorem ofName?_name (kind : Kind) : ofName? kind.name = some kind := by
  cases kind <;> decide +kernel

/-- No two kinds share a name. -/
theorem name_injective {kind other : Kind} (heq : kind.name = other.name) : kind = other := by
  have hfound := ofName?_name kind
  rw [heq, ofName?_name other] at hfound
  exact (Option.some.inj hfound).symm

end Kind

end LkLexer
