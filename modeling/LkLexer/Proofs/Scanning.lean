import LkLexer.Cursor.Scanner
import LkLexer.Proofs.CursorRuns

/-!
# A scanner does what a cursor does

A cursor knows more than its place: it holds what lies ahead. A scanner has to find that anew each time, and by then
could stand where it cannot cut the text. It never does: forgetting what lies ahead makes a scanner of a cursor, and
every operation on the one is that on the other. Main statements: from the beginning of a text both give the same
answers and stand at the same places, whatever they are asked (`trace_start`), and both are then at the end or not
(`isFinished_ofCursor`).
-/

namespace LkLexer

namespace Text

/-- Behind the front of a text lies the rest. -/
theorem behind?_byteLength_append (front back : Text) : behind? (byteLength front) (front ++ back) = some back := by
  rw [behind?, (cut?_eq_some_iff _ _ front back).mpr ⟨rfl, rfl⟩]
  rfl

/-- Places are told up to the end of a text, each as the length of what comes before. -/
theorem getElem?_placesFrom (place : Nat) (text : Text) (count : Nat) :
    (placesFrom place text)[count]? =
      if count ≤ text.length then some (place + byteLength (text.take count)) else none := by
  induction text generalizing place count with
  | nil => cases count <;> simp [placesFrom]
  | cons c text ih =>
    cases count with
    | zero => simp [placesFrom]
    | succ count => simp [placesFrom, ih, Nat.add_assoc]

/-- The first newline, or the end of the text, is behind all that comes on the same line. -/
theorem newline?_getD_byteLength (text : Text) :
    (newline? text).getD (byteLength text) = byteLength (text.takeWhile isInline) := by
  induction text with
  | nil => rfl
  | cons c text ih =>
    by_cases hnewline : c = '\n'
    · simp [newline?, isInline, hnewline]
    · rw [newline?, if_neg hnewline, List.takeWhile_cons_of_pos (by simpa [isInline] using hnewline), byteLength_cons,
        byteLength_cons, ← ih]
      cases newline? text <;> rfl

end Text

namespace Scanner

open Cursor (Operation Reply)

/-- The scanner at the place of a cursor. -/
def ofCursor (cursor : Cursor) : Scanner :=
  ⟨cursor.source, cursor.position⟩

variable (cursor : Cursor)

/-- At the place of a cursor and behind any characters ahead of it the text can be cut. -/
theorem behind?_source {taken rest : Text} (hrest : cursor.rest = taken ++ rest) :
    Text.behind? (cursor.position + Text.byteLength taken) cursor.source = some rest := by
  obtain ⟨passed, hsource, hposition⟩ := cursor.placed
  rw [← hposition, ← Text.byteLength_append, ← hsource, hrest, ← List.append_assoc]
  exact Text.behind?_byteLength_append _ rest

/-- A scanner finds what lies ahead. -/
theorem remainder?_ofCursor : (ofCursor cursor).remainder? = some cursor.rest :=
  behind?_source cursor (List.nil_append cursor.rest).symm

/-- A scanner has used up its text where the cursor has. -/
theorem isFinished_ofCursor : (ofCursor cursor).isFinished = cursor.isFinished := by
  obtain ⟨source, position, rest, passed, rfl, rfl⟩ := cursor
  rw [Bool.eq_iff_iff, isFinished, decide_eq_true_iff, Cursor.isFinished, List.isEmpty_iff,
    ← Text.byteLength_eq_zero_iff]
  change Text.byteLength (passed ++ rest) ≤ Text.byteLength passed ↔ Text.byteLength rest = 0
  rw [Text.byteLength_append]
  omega

/-- The place of a character ahead is behind those that come before it. -/
theorem place?_ofCursor (count : Nat) :
    (ofCursor cursor).place? count =
      some (if count ≤ cursor.rest.length then some (cursor.position + Text.byteLength (cursor.rest.take count))
        else none) := by
  rw [place?, remainder?_ofCursor]
  change some (Option.map _ (Text.placesFrom 0 cursor.rest)[count]?) = _
  rw [Text.getElem?_placesFrom]
  split
  · rw [Nat.zero_add]
    rfl
  · rfl

/-- A scanner finds the text that begins some characters ahead. -/
theorem behind?_place (count : Nat) :
    Text.behind? (cursor.position + Text.byteLength (cursor.rest.take count)) cursor.source =
      some (cursor.rest.drop count) :=
  behind?_source cursor (List.take_append_drop count cursor.rest).symm

/-- A scanner looks ahead as the cursor does. -/
theorem charAt?_ofCursor (count : Nat) : (ofCursor cursor).charAt? count = some (cursor.charAt? count) := by
  rw [charAt?, place?_ofCursor, Cursor.charAt?, Cursor.restAfter?_eq]
  split
  · change (Text.behind? _ cursor.source).bind _ = _
    rw [behind?_place]
    rfl
  · rfl

/-- A scanner finds the character under the cursor. -/
theorem current?_ofCursor : (ofCursor cursor).current? = some cursor.rest.head? := by
  rw [current?, charAt?_ofCursor]
  rfl

/-- A scanner finds a literal ahead where the cursor does. -/
theorem startsAt?_ofCursor (literal : Text) (count : Nat) :
    (ofCursor cursor).startsAt? literal count = some (cursor.startsAt literal count) := by
  rw [startsAt?, place?_ofCursor, Cursor.startsAt, Cursor.restAfter?_eq]
  split
  · change (Text.behind? _ cursor.source).bind _ = _
    rw [behind?_place]
    rfl
  · rfl

/-- A scanner moves to where the cursor moves. -/
theorem advance?_ofCursor (count : Nat) :
    (ofCursor cursor).advance? count = some (ofCursor (cursor.advance count)) := by
  induction count generalizing cursor with
  | zero => rw [advance?, Cursor.advance]
  | succ count ih =>
    rw [advance?, current?_ofCursor]
    obtain ⟨source, position, rest, placed⟩ := cursor
    cases rest with
    | nil => rfl
    | cons c rest => exact ih (Cursor.next ⟨source, position, c :: rest, placed⟩)

/-- A scanner takes the rest of a line as the cursor does. -/
theorem takeLine?_ofCursor :
    (ofCursor cursor).takeLine? = some (cursor.restOfLine, ofCursor cursor.skipLine) := by
  have hsplit : cursor.restOfLine ++ cursor.rest.dropWhile Text.isInline = cursor.rest :=
    List.takeWhile_append_dropWhile
  have htake : cursor.rest.take cursor.restOfLine.length = cursor.restOfLine := by
    rw [← hsplit, List.take_left' rfl]
  have hskip : ofCursor cursor.skipLine =
      ⟨cursor.source, cursor.position + Text.byteLength cursor.restOfLine⟩ := by
    rw [ofCursor, Cursor.skipLine, Cursor.source_advance, Cursor.position_advance, htake]
  have hcut := (Text.cut?_eq_some_iff _ _ cursor.restOfLine _).mpr ⟨hsplit, rfl⟩
  rw [takeLine?, remainder?_ofCursor]
  simp only [Option.bind_eq_bind, Option.bind_some, Text.newline?_getD_byteLength]
  change (Text.cut? (Text.byteLength cursor.restOfLine) cursor.rest).bind _ = _
  rw [hcut, hskip]
  rfl

/-- Every operation on a scanner is that on the cursor at its place. -/
theorem perform_ofCursor (operation : Operation) :
    (ofCursor cursor).perform operation = (cursor.perform operation).map id ofCursor := by
  cases operation with
  | charAt count => simp [perform, perform?, charAt?_ofCursor, Cursor.perform]
  | current => simp [perform, perform?, current?, charAt?_ofCursor, Cursor.perform, Cursor.current?]
  | advance count =>
    simp [perform, perform?, advance?_ofCursor, current?, charAt?_ofCursor, Cursor.perform, Cursor.current?]
  | startsAt literal count => simp [perform, perform?, startsAt?_ofCursor, Cursor.perform]
  | takeLine => simp [perform, perform?, takeLine?_ofCursor, Cursor.perform]
  | remainder => simp [perform, perform?, remainder?_ofCursor, Cursor.perform]
  | slice start stop =>
    simp only [perform, perform?, Cursor.perform, Cursor.slice?]
    change (Option.bind (Text.slice? start stop cursor.source) _).getD _ = _
    cases Text.slice? start stop cursor.source <;> rfl

/-- Every run of a scanner is that of the cursor at its place. -/
theorem trace_ofCursor (operations : List Operation) :
    (ofCursor cursor).trace operations = (cursor.trace operations).map (Prod.map id ofCursor) := by
  induction operations generalizing cursor with
  | nil => rfl
  | cons operation later ih =>
    rw [trace, perform_ofCursor, Cursor.trace, List.map_cons]
    exact congrArg _ (ih (cursor.perform operation).2)

/-- From the beginning of a text a scanner and a cursor give the same answers and stand at the same places. -/
theorem trace_start (source : Text) (operations : List Operation) :
    (start source).trace operations = ((Cursor.start source).trace operations).map (Prod.map id ofCursor) :=
  trace_ofCursor (Cursor.start source) operations

end Scanner

end LkLexer
