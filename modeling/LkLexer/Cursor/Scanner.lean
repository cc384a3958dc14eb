import LkLexer.Cursor.Trace

/-!
# A scanner that keeps nothing but its place

A scanner has a text and its own place in it, in bytes. What lies ahead it finds by cutting the text there, and a
character some way ahead by the places of those that come before. Cutting a text at a number that is none of its places
is refused, so all that a scanner does could be; then it stays where it is.
-/

namespace LkLexer

namespace Text

/-- The text behind a place; none when the number is no place. -/
def behind? (place : Nat) (text : Text) : Option Text :=
  (cut? place text).map Prod.snd

/-- The places of the characters of a text, counted on from a number, and behind them the place of its end. -/
def placesFrom (place : Nat) : Text → List Nat
  | [] => [place]
  | c :: rest => place :: placesFrom (place + c.utf8Size) rest

/-- The place of the first newline, if there is one. -/
def newline? : Text → Option Nat
  | [] => none
  | c :: rest => if c = '\n' then some 0 else (newline? rest).map (c.utf8Size + ·)

end Text

/-- A text, and a place in it. -/
structure Scanner where
  source : Text
  position : Nat
deriving DecidableEq

namespace Scanner

open Cursor (Operation Reply)

/-- The scanner before the first character of a text. -/
def start (source : Text) : Scanner :=
  ⟨source, 0⟩

variable (scanner : Scanner)

/-- Whether the place is at the end of the text or past it. -/
def isFinished : Bool :=
  Text.byteLength scanner.source ≤ scanner.position

/-- What lies ahead. -/
def remainder? : Option Text :=
  Text.behind? scanner.position scanner.source

/-- The place of the character that lies `count` characters ahead, or of the end if it lies that far ahead. -/
def place? (count : Nat) : Option (Option Nat) := do
  let rest ← scanner.remainder?
  return (Text.placesFrom 0 rest)[count]?.map (scanner.position + ·)

/-- The character that lies `count` characters ahead, if the text goes on that far. -/
def charAt? (count : Nat) : Option (Option Char) := do
  match ← scanner.place? count with
  | some place => return (← Text.behind? place scanner.source).head?
  | none => return none

/-- The character at the place. -/
def current? : Option (Option Char) :=
  scanner.charAt? 0

/-- Whether the text that begins `count` characters ahead starts with a literal. -/
def startsAt? (literal : Text) (count : Nat) : Option Bool := do
  match ← scanner.place? count with
  | some place => return literal.isPrefixOf (← Text.behind? place scanner.source)
  | none => return false

/-- A number of characters forward, one at a time, or to the end of the text if fewer are left. -/
def advance? (scanner : Scanner) : Nat → Option Scanner
  | 0 => some scanner
  | count + 1 => do
    match ← scanner.current? with
    | some c => advance? ⟨scanner.source, scanner.position + c.utf8Size⟩ count
    | none => return scanner

/-- What lies ahead up to the next newline or the end, and the scanner behind it. -/
def takeLine? : Option (Text × Scanner) := do
  let rest ← scanner.remainder?
  let length := (Text.newline? rest).getD (Text.byteLength rest)
  let (line, _) ← Text.cut? length rest
  return (line, ⟨scanner.source, scanner.position + length⟩)

/-- The answer to an operation and the scanner after it, if it is not refused. -/
def perform? : Operation → Option (Reply × Scanner)
  | .charAt count => do return (.character (← scanner.charAt? count), scanner)
  | .current => do return (.character (← scanner.current?), scanner)
  | .advance count => do
    let moved ← scanner.advance? count
    return (.character (← moved.current?), moved)
  | .startsAt literal count => do return (.truth (← scanner.startsAt? literal count), scanner)
  | .takeLine => do
    let (line, moved) ← scanner.takeLine?
    return (.text line, moved)
  | .remainder => do return (.text (← scanner.remainder?), scanner)
  | .slice start stop => do return (.text (← Text.slice? start stop scanner.source), scanner)

/-- The answer to an operation, and the scanner after it. -/
def perform (operation : Operation) : Reply × Scanner :=
  (scanner.perform? operation).getD (.refused, scanner)

/-- The answers to operations in order, each with the scanner after it. -/
def trace (scanner : Scanner) : List Operation → List (Reply × Scanner)
  | [] => []
  | operation :: later => scanner.perform operation :: trace (scanner.perform operation).2 later

end Scanner

end LkLexer
