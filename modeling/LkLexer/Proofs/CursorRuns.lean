import LkLexer.Cursor.Trace
import LkLexer.Proofs.Lines

/-!
# Runs of a cursor read a list of characters

A cursor counts its place in bytes and looks ahead by characters. Seen as a text of which some characters are
passed and the rest lies ahead, each of its operations is one on lists, and only those that move it change
what is passed. Main statement: every run from the beginning of a text answers as the lists do, its positions
are places of the text in order, and between two of them it always finds the characters passed from the one
to the other (`reads_trace_start`).
-/

namespace LkLexer

namespace Text

/-- The longest front of a text that has no newline. -/
structure IsRestOfLine (line text : Text) : Prop where
  front : line <+: text
  inline : '\n' ∉ line
  longest : ∀ other, other <+: text → '\n' ∉ other → other <+: line

/-- The rest of a line goes up to the first newline. -/
theorem isRestOfLine_takeWhile (text : Text) : IsRestOfLine (text.takeWhile isInline) text where
  front := List.takeWhile_prefix isInline
  inline := (forall_isInline_iff _).mp fun _ hc => List.mem_takeWhile_imp hc
  longest := by
    intro other hfront hinline
    obtain ⟨rest, rfl⟩ := hfront
    rw [List.takeWhile_append_of_pos ((forall_isInline_iff other).mpr hinline)]
    exact List.prefix_append other _

end Text

namespace Cursor

/-- The cursor stands in its source behind the characters passed and before those that lie ahead. -/
structure StandsBetween (cursor : Cursor) (passed rest : Text) : Prop where
  source_eq : cursor.source = passed ++ rest
  position_eq : cursor.position = Text.byteLength passed
  rest_eq : cursor.rest = rest
  isFinished_iff : cursor.isFinished = true ↔ rest = []

/-- A part of a text is refused if its ends are reversed, past the end or inside a character, and is given as
it stands otherwise. -/
structure IsSliceReply (text : Text) (start stop : Nat) (reply : Reply) : Prop where
  refused_iff : reply = .refused ↔
    stop < start ∨ Text.byteLength text < stop ∨ ¬Text.IsPlace start text ∨ ¬Text.IsPlace stop text
  text_of_append : ∀ before value after, before ++ value ++ after = text → Text.byteLength before = start →
    Text.byteLength (before ++ value) = stop → reply = .text value

/-- What an operation answers where some characters of a text are passed and the rest lies ahead, and which
of those ahead it takes. -/
def Operation.Answers (passed rest : Text) (reply : Reply) (taken : Text) : Operation → Prop
  | .charAt count => reply = .character rest[count]? ∧ taken = []
  | .current => reply = .character rest.head? ∧ taken = []
  | .advance count => reply = .character (rest.drop count).head? ∧ taken = rest.take count
  | .startsAt literal count =>
    reply = .truth (decide (count ≤ rest.length ∧ literal <+: rest.drop count)) ∧ taken = []
  | .takeLine => reply = .text taken ∧ Text.IsRestOfLine taken rest
  | .remainder => reply = .text rest ∧ taken = []
  | .slice start stop => IsSliceReply (passed ++ rest) start stop reply ∧ taken = []

/-- A run of operations from a cursor on, each answered where the one before it has left the text. -/
inductive Reads : Cursor → Text → Text → List Operation → List (Reply × Cursor) → Prop
  | finish {cursor : Cursor} {passed rest : Text} :
    cursor.StandsBetween passed rest → Reads cursor passed rest [] []
  | step {cursor next : Cursor} {passed taken rest : Text} {operation : Operation} {later : List Operation}
      {reply : Reply} {replies : List (Reply × Cursor)} :
    cursor.StandsBetween passed (taken ++ rest) → operation.Answers passed (taken ++ rest) reply taken →
    Reads next (passed ++ taken) rest later replies →
    Reads cursor passed (taken ++ rest) (operation :: later) ((reply, next) :: replies)

/-- The cursors of a run, the first one included. -/
def visited (cursor : Cursor) (operations : List Operation) : List Cursor :=
  cursor :: (cursor.trace operations).map Prod.snd

/-- Before its first move a cursor has passed nothing. -/
theorem standsBetween_start (source : Text) : (start source).StandsBetween [] source :=
  ⟨rfl, rfl, rfl, List.isEmpty_iff⟩

/-- The text that begins some characters ahead, if there are as many. -/
theorem restAfter?_eq (count : Nat) (rest : Text) :
    restAfter? count rest = if count ≤ rest.length then some (rest.drop count) else none := by
  induction count generalizing rest with
  | zero => simp [restAfter?]
  | succ count ih =>
    cases rest with
    | nil => simp [restAfter?]
    | cons c rest => simp [restAfter?, ih]

/-- The character some places ahead is the one with that index, and there is none past the end. -/
theorem charAt?_eq_getElem? (cursor : Cursor) (count : Nat) : cursor.charAt? count = cursor.rest[count]? := by
  rw [charAt?, restAfter?_eq]
  split
  · exact List.head?_drop
  · next hcount =>
    rw [List.getElem?_eq_none (Nat.le_of_not_le hcount)]
    rfl

/-- A literal is found some characters ahead when the text goes on that far and the literal begins there. -/
theorem startsAt_eq_decide (cursor : Cursor) (literal : Text) (count : Nat) :
    cursor.startsAt literal count = decide (count ≤ cursor.rest.length ∧ literal <+: cursor.rest.drop count) := by
  rw [startsAt, restAfter?_eq]
  by_cases hcount : count ≤ cursor.rest.length
  · rw [if_pos hcount, Bool.eq_iff_iff, decide_eq_true_iff, List.isPrefixOf_iff_prefix]
    exact (and_iff_right hcount).symm
  · simp [hcount]

/-- A slice is answered by the text between its ends, wherever the cursor stands. -/
theorem isSliceReply_perform (cursor : Cursor) (start stop : Nat) :
    IsSliceReply cursor.source start stop (cursor.perform (.slice start stop)).1 := by
  change IsSliceReply cursor.source start stop (((Text.slice? start stop cursor.source).map Reply.text).getD .refused)
  refine ⟨?_, fun before value after htext hstart hstop => ?_⟩
  · have hnone (found : Option Text) : (found.map Reply.text).getD .refused = .refused ↔ found = none := by
      cases found <;> simp
    have hpast : Text.byteLength cursor.source < stop → ¬Text.IsPlace stop cursor.source :=
      fun hlt hplace => Nat.not_le_of_lt hlt hplace.le_byteLength
    rw [hnone, Text.slice?_eq_none_iff]
    grind
  · rw [(Text.slice?_eq_some_iff start stop cursor.source value).mpr ⟨before, after, htext, hstart, hstop⟩]
    rfl

namespace StandsBetween

variable {cursor : Cursor} {passed rest : Text}

/-- Moving takes characters from those ahead. -/
theorem advance (hstands : cursor.StandsBetween passed rest) (count : Nat) :
    (cursor.advance count).StandsBetween (passed ++ rest.take count) (rest.drop count) := by
  obtain ⟨hsource, hposition, rfl, -⟩ := hstands
  refine ⟨?_, ?_, rest_advance cursor count, ?_⟩
  · rw [List.append_assoc, List.take_append_drop, source_advance, hsource]
  · rw [position_advance, hposition, Text.byteLength_append]
  · rw [isFinished, rest_advance, List.isEmpty_iff]

/-- Moving by as many characters as there are in a front takes that front. -/
theorem advance_length {taken after : Text} (hstands : cursor.StandsBetween passed (taken ++ after)) :
    (cursor.advance taken.length).StandsBetween (passed ++ taken) after := by
  have hadvance := hstands.advance taken.length
  rwa [List.take_left, List.drop_left] at hadvance

/-- One operation answers as the lists do, and leaves the cursor behind what it takes. -/
theorem perform (hstands : cursor.StandsBetween passed rest) (operation : Operation) :
    ∃ taken after, rest = taken ++ after ∧ operation.Answers passed rest (cursor.perform operation).1 taken ∧
      (cursor.perform operation).2.StandsBetween (passed ++ taken) after := by
  -- All operations but two take nothing and leave the cursor where it is.
  have hstay : cursor.StandsBetween (passed ++ []) rest := by simpa using hstands
  have hrest := hstands.rest_eq
  cases operation with
  | charAt count =>
    refine ⟨[], rest, rfl, ⟨?_, rfl⟩, hstay⟩
    rw [← hrest, ← charAt?_eq_getElem?]
    rfl
  | current =>
    refine ⟨[], rest, rfl, ⟨?_, rfl⟩, hstay⟩
    rw [← hrest, List.head?_eq_getElem?, ← charAt?_eq_getElem?]
    rfl
  | advance count =>
    refine ⟨_, _, (List.take_append_drop count rest).symm, ⟨?_, rfl⟩, hstands.advance count⟩
    change Reply.character ((cursor.advance count).charAt? 0) = _
    rw [charAt?_eq_getElem?, rest_advance, ← List.head?_eq_getElem?, hrest]
  | startsAt literal count =>
    refine ⟨[], rest, rfl, ⟨?_, rfl⟩, hstay⟩
    rw [← hrest, ← startsAt_eq_decide]
    rfl
  | takeLine =>
    have hsplit : rest.takeWhile Text.isInline ++ rest.dropWhile Text.isInline = rest :=
      List.takeWhile_append_dropWhile
    have hline : cursor.restOfLine = rest.takeWhile Text.isInline := congrArg (List.takeWhile Text.isInline) hrest
    refine ⟨_, _, hsplit.symm, ⟨congrArg Reply.text hline, Text.isRestOfLine_takeWhile rest⟩, ?_⟩
    rw [← hsplit] at hstands
    change (cursor.advance cursor.restOfLine.length).StandsBetween _ _
    rw [hline]
    exact hstands.advance_length
  | remainder =>
    refine ⟨[], rest, rfl, ⟨?_, rfl⟩, hstay⟩
    rw [← hrest]
    rfl
  | slice start stop =>
    have hreply := cursor.isSliceReply_perform start stop
    rw [hstands.source_eq] at hreply
    exact ⟨[], rest, rfl, ⟨hreply, rfl⟩, hstay⟩

end StandsBetween

/-- The operations of a run answer one after another as the lists do. -/
theorem reads_trace {cursor : Cursor} {passed rest : Text} (hstands : cursor.StandsBetween passed rest)
    (operations : List Operation) : Reads cursor passed rest operations (cursor.trace operations) := by
  induction operations generalizing cursor passed rest with
  | nil => exact .finish hstands
  | cons operation later ih =>
    -- What is passed grows with every operation, so the induction is over all cursors and splits.
    obtain ⟨taken, after, rfl, hanswers, hnext⟩ := hstands.perform operation
    exact .step hstands hanswers (ih hnext)

/-- Every cursor of a run stands at or behind the place of the first one. -/
theorem exists_standsBetween_of_mem_visited {cursor other : Cursor} {passed rest : Text}
    (hstands : cursor.StandsBetween passed rest) {operations : List Operation}
    (hvisited : other ∈ cursor.visited operations) :
    ∃ taken after, rest = taken ++ after ∧ other.StandsBetween (passed ++ taken) after := by
  induction operations generalizing cursor passed rest with
  | nil =>
    obtain rfl := List.mem_singleton.mp hvisited
    exact ⟨[], rest, rfl, by simpa using hstands⟩
  | cons operation later ih =>
    rcases List.mem_cons.mp hvisited with rfl | hvisited
    · exact ⟨[], rest, rfl, by simpa using hstands⟩
    · obtain ⟨taken, after, rfl, -, hnext⟩ := hstands.perform operation
      obtain ⟨more, after, rfl, hother⟩ := ih hnext hvisited
      exact ⟨taken ++ more, after, (List.append_assoc _ _ _).symm, by rwa [← List.append_assoc]⟩

/-- The position of a cursor never decreases. -/
theorem pairwise_position_visited {cursor : Cursor} {passed rest : Text} (hstands : cursor.StandsBetween passed rest)
    (operations : List Operation) :
    (cursor.visited operations).Pairwise fun earlier later => earlier.position ≤ later.position := by
  induction operations generalizing cursor passed rest with
  | nil => exact List.pairwise_singleton _ cursor
  | cons operation later ih =>
    obtain ⟨taken, after, rfl, -, hnext⟩ := hstands.perform operation
    refine List.pairwise_cons.mpr ⟨fun other hother => ?_, ih hnext⟩
    obtain ⟨more, _, -, hstandsOther⟩ := exists_standsBetween_of_mem_visited hnext hother
    rw [hstands.position_eq, hstandsOther.position_eq, Text.byteLength_append, Text.byteLength_append]
    omega

/-- Between the positions of two cursors over its own source, in their order, a cursor finds the characters
that lie ahead of the one and are passed by the other. -/
theorem exists_perform_slice_eq_text {earlier later cursor : Cursor} {passed passed' rest rest' : Text}
    (hearlier : earlier.StandsBetween passed rest) (hlater : later.StandsBetween passed' rest')
    (hsource : passed ++ rest = cursor.source) (hsource' : passed' ++ rest' = cursor.source)
    (hle : earlier.position ≤ later.position) :
    ∃ value, (cursor.perform (.slice earlier.position later.position)).1 = .text value ∧
      earlier.rest = value ++ later.rest := by
  rw [hearlier.position_eq, hlater.position_eq] at hle ⊢
  obtain ⟨value, rfl, rfl⟩ := Text.exists_append_of_byteLength_le (hsource.trans hsource'.symm) hle
  refine ⟨value, (cursor.isSliceReply_perform _ _).text_of_append passed value rest' hsource' rfl rfl, ?_⟩
  rw [hearlier.rest_eq, hlater.rest_eq]

/-- Every run from the beginning of a text answers, operation by operation, as a text does of which some
characters are passed and the rest lies ahead. Its positions are places of the text and never decrease, and a
slice between two of them is what the one has ahead and the other has passed. -/
theorem reads_trace_start (source : Text) (operations : List Operation) :
    let cursors := (start source).visited operations
    Reads (start source) [] source operations ((start source).trace operations) ∧
      (cursors.Pairwise fun earlier later => earlier.position ≤ later.position) ∧
      (∀ cursor ∈ cursors, Text.IsPlace cursor.position source ∧ cursor.position ≤ Text.byteLength source) ∧
      ∀ earlier ∈ cursors, ∀ later ∈ cursors, earlier.position ≤ later.position → ∀ cursor ∈ cursors,
        ∃ value, (cursor.perform (.slice earlier.position later.position)).1 = .text value ∧
          earlier.rest = value ++ later.rest := by
  have hstart := standsBetween_start source
  have hsplit {cursor : Cursor} (hvisited : cursor ∈ (start source).visited operations) :
      ∃ passed rest, source = passed ++ rest ∧ cursor.StandsBetween passed rest :=
    exists_standsBetween_of_mem_visited hstart hvisited
  refine ⟨reads_trace hstart operations, pairwise_position_visited hstart operations, ?_, ?_⟩
  · intro cursor hvisited
    obtain ⟨passed, rest, hsource, hstands⟩ := hsplit hvisited
    have hplace : Text.IsPlace cursor.position source := ⟨passed, rest, hsource.symm, hstands.position_eq.symm⟩
    exact ⟨hplace, hplace.le_byteLength⟩
  · intro earlier hearlier later hlater hle cursor hcursor
    obtain ⟨passed, rest, hsource, hstandsEarlier⟩ := hsplit hearlier
    obtain ⟨passed', rest', hsource', hstandsLater⟩ := hsplit hlater
    obtain ⟨passed'', rest'', hsource'', hstands⟩ := hsplit hcursor
    have hcursorSource : cursor.source = source := hstands.source_eq.trans hsource''.symm
    exact exists_perform_slice_eq_text hstandsEarlier hstandsLater (hsource.symm.trans hcursorSource.symm)
      (hsource'.symm.trans hcursorSource.symm) hle

end Cursor

end LkLexer
