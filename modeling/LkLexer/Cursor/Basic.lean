import LkLexer.Text.Location

/-!
# A cursor that moves forward over a text

The cursor knows the whole text, the place it has reached and the characters that are still ahead. It looks
ahead and moves by characters, while its place is counted in bytes, as are the ends of slices. It never
moves back, and it stops at the end of the text. Main statements: what remains after a move and where the
cursor then stands (`rest_advance`, `position_advance`).
-/

namespace LkLexer

/-- A place of a text, with what lies ahead of it. -/
structure Cursor where
  source : Text
  position : Nat
  rest : Text
  placed : ∃ passed, passed ++ rest = source ∧ Text.byteLength passed = position

namespace Cursor

/-- The cursor before the first character of a text. -/
def start (source : Text) : Cursor :=
  ⟨source, 0, source, [], rfl, rfl⟩

/-- Whether no character is left. -/
def isFinished (cursor : Cursor) : Bool :=
  cursor.rest.isEmpty

/-- The text from `count` characters ahead on, which is nothing at the end and none past it. -/
def restAfter? (count : Nat) (rest : Text) : Option Text :=
  match count, rest with
  | 0, rest => some rest
  | _ + 1, [] => none
  | count + 1, _ :: rest => restAfter? count rest

/-- The character that lies `count` characters ahead, if the text goes on that far. -/
def charAt? (cursor : Cursor) (count : Nat) : Option Char :=
  (restAfter? count cursor.rest).bind List.head?

/-- The character under the cursor. -/
def current? (cursor : Cursor) : Option Char :=
  cursor.charAt? 0

/-- Whether the text that begins `count` characters ahead starts with a literal. -/
def startsAt (cursor : Cursor) (literal : Text) (count : Nat) : Bool :=
  match restAfter? count cursor.rest with
  | some rest => literal.isPrefixOf rest
  | none => false

/-- One character forward, if one is left. -/
def next : Cursor → Cursor
  | ⟨source, position, [], placed⟩ => ⟨source, position, [], placed⟩
  | ⟨source, position, c :: rest, placed⟩ =>
    ⟨source, position + c.utf8Size, rest, by
      obtain ⟨passed, hsource, hposition⟩ := placed
      exact ⟨passed ++ [c], by simpa using hsource, by simp [hposition]⟩⟩

/-- A number of characters forward, or to the end of the text if fewer are left. -/
def advance (cursor : Cursor) (count : Nat) : Cursor :=
  match count, cursor.rest with
  | 0, _ => cursor
  | _ + 1, [] => cursor
  | count + 1, _ :: _ => cursor.next.advance count

/-- The characters before the next newline, or all that are left if there is none. -/
def restOfLine (cursor : Cursor) : Text :=
  cursor.rest.takeWhile Text.isInline

/-- The cursor behind the rest of its line, on the newline or at the end. -/
def skipLine (cursor : Cursor) : Cursor :=
  cursor.advance cursor.restOfLine.length

/-- The part of the source between two of its places, wherever the cursor is. -/
def slice? (cursor : Cursor) (start stop : Nat) : Option Text :=
  Text.slice? start stop cursor.source

@[simp] theorem source_next (cursor : Cursor) : cursor.next.source = cursor.source := by
  rcases cursor with ⟨source, position, _ | ⟨c, rest⟩, placed⟩ <;> rfl

@[simp] theorem rest_next (cursor : Cursor) : cursor.next.rest = cursor.rest.drop 1 := by
  rcases cursor with ⟨source, position, _ | ⟨c, rest⟩, placed⟩ <;> rfl

@[simp] theorem position_next (cursor : Cursor) :
    cursor.next.position = cursor.position + Text.byteLength (cursor.rest.take 1) := by
  rcases cursor with ⟨source, position, _ | ⟨c, rest⟩, placed⟩ <;> simp [next]

/-- Moving leaves the text as it is. -/
@[simp] theorem source_advance (cursor : Cursor) (count : Nat) : (cursor.advance count).source = cursor.source := by
  induction count generalizing cursor with
  | zero => simp [advance]
  | succ count ih =>
    unfold advance
    split
    · rfl
    · rfl
    · simp_all

/-- Moving drops that many of the characters ahead. -/
@[simp] theorem rest_advance (cursor : Cursor) (count : Nat) :
    (cursor.advance count).rest = cursor.rest.drop count := by
  induction count generalizing cursor with
  | zero => simp [advance]
  | succ count ih =>
    unfold advance
    split
    · next hcount => simp at hcount
    · next hrest => simp [hrest]
    · next hcount hrest =>
      obtain rfl := Nat.succ.inj hcount
      rw [ih, rest_next, List.drop_drop, Nat.add_comm]

/-- Moving adds the bytes of the characters passed. -/
@[simp] theorem position_advance (cursor : Cursor) (count : Nat) :
    (cursor.advance count).position = cursor.position + Text.byteLength (cursor.rest.take count) := by
  induction count generalizing cursor with
  | zero => simp [advance]
  | succ count ih =>
    unfold advance
    split
    · next hcount => simp at hcount
    · next hrest => simp [hrest]
    · next hcount hrest =>
      obtain rfl := Nat.succ.inj hcount
      rw [ih, rest_next, position_next, hrest]
      simp [Nat.add_assoc]

end Cursor

end LkLexer
