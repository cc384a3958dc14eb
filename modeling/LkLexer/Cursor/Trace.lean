import LkLexer.Cursor.Basic

/-!
# Runs of cursor operations

A run applies operations one after another and keeps what each of them answers and where it leaves the
cursor. Only advancing and taking the rest of a line move it. A slice whose ends are no places of the text,
or are reversed, is refused; the run goes on from where the cursor was.
-/

namespace LkLexer.Cursor

/-- What can be asked of a cursor. -/
inductive Operation where
  | charAt (count : Nat)
  | current
  | advance (count : Nat)
  | startsAt (literal : Text) (count : Nat)
  | takeLine
  | remainder
  | slice (start stop : Nat)
deriving DecidableEq

/-- What an operation answers. -/
inductive Reply where
  | character (found : Option Char)
  | truth (holds : Bool)
  | text (value : Text)
  | refused
deriving DecidableEq

/-- The answer to an operation, and the cursor after it. -/
def perform (cursor : Cursor) : Operation → Reply × Cursor
  | .charAt count => (.character (cursor.charAt? count), cursor)
  | .current => (.character cursor.current?, cursor)
  | .advance count => (.character (cursor.advance count).current?, cursor.advance count)
  | .startsAt literal count => (.truth (cursor.startsAt literal count), cursor)
  | .takeLine => (.text cursor.restOfLine, cursor.skipLine)
  | .remainder => (.text cursor.rest, cursor)
  | .slice start stop => (((cursor.slice? start stop).map Reply.text).getD .refused, cursor)

/-- The answers to operations in order, each with the cursor after it. -/
def trace (cursor : Cursor) : List Operation → List (Reply × Cursor)
  | [] => []
  | operation :: later => cursor.perform operation :: (cursor.perform operation).2.trace later

end LkLexer.Cursor
