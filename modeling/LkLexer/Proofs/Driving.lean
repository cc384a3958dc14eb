import LkLexer.Proofs.CommentSearch
import LkLexer.Proofs.CursorRuns
import LkLexer.Tokenizer.Trace

/-!
# A tokenizer driven by hand shows its cursor

Only moves change what a tokenizer shows: its position, the character under its cursor and the text ahead.
Recording leaves these as they are, whether it is accepted or refused, and it is refused only for a place that
lies ahead of the cursor or is none. So after any steps a tokenizer shows what a cursor shows that has made the
moves among them. Main statement: this for every step of every run, with the steps that are refused
(`shows_after_start`).
-/

namespace LkLexer

/-- Moves leave the source as it is. -/
theorem Cursor.source_foldl_advance (cursor : Cursor) (counts : List Nat) :
    (counts.foldl advance cursor).source = cursor.source := by
  induction counts generalizing cursor with
  | nil => rfl
  | cons count later ih => rw [List.foldl_cons, ih, source_advance]

/-- The character under the cursor is the first one ahead. -/
theorem Cursor.current?_eq_head? (cursor : Cursor) : cursor.current? = cursor.rest.head? := by
  rw [current?, charAt?_eq_getElem?, List.head?_eq_getElem?]

namespace Tokenizer

/-- The tokenizer that a step leaves, accepted or refused. -/
def leftBy (state : Tokenizer) (step : Step) : Tokenizer :=
  match step.perform state with
  | .ok () next => next
  | .error () left => left

/-- Whether a step is accepted. -/
def accepts (state : Tokenizer) (step : Step) : Bool :=
  match step.perform state with
  | .ok () _ => true
  | .error () _ => false

/-- The number of characters by which a step moves the cursor. Recording moves it by none. -/
def Step.move? : Step → Option Nat
  | advance count => some count
  | recordFrom _ _ => none
  | record _ => none

/-- A cursor over a source that has made only the moves among some steps. -/
def moved (source : Text) (steps : List Step) : Cursor :=
  (steps.filterMap Step.move?).foldl Cursor.advance (Cursor.start source)

/-- The tokenizer after some steps: the last one of their trace, or the one before them if there are none. -/
def after (state : Tokenizer) (steps : List Step) : Tokenizer :=
  ((state.trace steps).getLast?.map Prod.snd).getD state

/-- A tokenizer shows what a cursor over the source shows. Its position and the bytes ahead add up to the source,
the character under its cursor is the first one ahead, and at the end there is none. -/
structure Shows (state : Tokenizer) (source : Text) (cursor : Cursor) : Prop where
  position_eq : state.cursor.position = cursor.position
  current?_eq : state.cursor.current? = cursor.current?
  isFinished_eq : state.cursor.isFinished = cursor.isFinished
  rest_eq : state.cursor.rest = cursor.rest
  position_add : state.cursor.position + Text.byteLength state.cursor.rest = Text.byteLength source
  current?_eq_head? : state.cursor.current? = state.cursor.rest.head?
  isFinished_iff : state.cursor.isFinished = true ↔ state.cursor.rest = []
  rest_eq_nil_iff : state.cursor.rest = [] ↔ state.cursor.current? = none

/-- A trace goes on from the tokenizer that its first step leaves. -/
theorem trace_cons (state : Tokenizer) (step : Step) (later : List Step) :
    state.trace (step :: later) = (state.accepts step, state.leftBy step) :: (state.leftBy step).trace later := by
  rw [trace, accepts, leftBy]
  cases step.perform state <;> rfl

/-- Steps one after another are the first one and the steps behind it. -/
theorem after_cons (state : Tokenizer) (step : Step) (later : List Step) :
    state.after (step :: later) = (state.leftBy step).after later := by
  rw [after, trace_cons, List.getLast?_cons, after]
  cases ((state.leftBy step).trace later).getLast? <;> rfl

/-- The trace of steps in two parts: the second part goes on from where the first one leads. -/
theorem trace_append (state : Tokenizer) (earlier later : List Step) :
    state.trace (earlier ++ later) = state.trace earlier ++ (state.after earlier).trace later := by
  induction earlier generalizing state with
  | nil => rfl
  | cons step earlier ih => rw [List.cons_append, trace_cons, ih, after_cons, trace_cons, List.cons_append]

/-- Steps in two parts lead where the second part leads from behind the first one. -/
theorem after_append (state : Tokenizer) (earlier later : List Step) :
    state.after (earlier ++ later) = (state.after earlier).after later := by
  induction earlier generalizing state with
  | nil => rfl
  | cons step earlier ih => rw [List.cons_append, after_cons, ih, after_cons]

/-- A step leaves the cursor where it is, unless it moves it. -/
theorem cursor_leftBy (state : Tokenizer) (step : Step) :
    (state.leftBy step).cursor = (step.move?.toList).foldl Cursor.advance state.cursor := by
  cases step with
  | advance count => rfl
  | record token => rfl
  | recordFrom place kind =>
    -- Whether it is refused or not, recording leaves the cursor where it is.
    rw [leftBy, Step.perform, Tokenizer.recordFrom_eq]
    cases state.cursor.slice? place state.cursor.position <;> rfl

/-- After some steps the cursor has made the moves among them, and no others. -/
theorem cursor_after (state : Tokenizer) (steps : List Step) :
    (state.after steps).cursor = (steps.filterMap Step.move?).foldl Cursor.advance state.cursor := by
  induction steps generalizing state with
  | nil => rfl
  | cons step later ih =>
    rw [after_cons, ih, cursor_leftBy, List.filterMap_cons]
    cases step.move? <;> rfl

/-- Only recording from a place is ever refused, namely if that place is ahead of the cursor or none at all. -/
theorem accepts_eq_false_iff (state : Tokenizer) (step : Step) :
    state.accepts step = false ↔
      ∃ place kind, step = .recordFrom place kind ∧
        (state.cursor.position < place ∨ ¬Text.IsPlace place state.cursor.source) := by
  cases step with
  | advance count => exact iff_of_false Bool.noConfusion (by simp)
  | record token => exact iff_of_false Bool.noConfusion (by simp)
  | recordFrom place kind =>
    have hrefused : state.accepts (.recordFrom place kind) = false ↔
        state.cursor.slice? place state.cursor.position = none := by
      rw [accepts, Step.perform, Tokenizer.recordFrom_eq]
      cases state.cursor.slice? place state.cursor.position <;> simp
    have hposition := state.cursor.isPlace_position
    rw [hrefused, Cursor.slice?, Text.slice?_eq_none_iff]
    simp [hposition]

/-- A step that is refused leaves the tokenizer as it was. -/
theorem leftBy_of_accepts_eq_false {state : Tokenizer} {step : Step} (hrefused : state.accepts step = false) :
    state.leftBy step = state := by
  cases step with
  | advance count => cases hrefused
  | record token => cases hrefused
  | recordFrom place kind =>
    rw [accepts, Step.perform, Tokenizer.recordFrom_eq] at hrefused
    rw [leftBy, Step.perform, Tokenizer.recordFrom_eq]
    cases hslice : state.cursor.slice? place state.cursor.position with
    | none => rfl
    | some value =>
      rw [hslice] at hrefused
      cases hrefused

/-- Steps leave the source as it is. -/
theorem source_cursor_after (state : Tokenizer) (steps : List Step) :
    (state.after steps).cursor.source = state.cursor.source := by
  rw [cursor_after, Cursor.source_foldl_advance]

/-- A tokenizer shows its own cursor. -/
theorem shows_cursor (state : Tokenizer) : state.Shows state.cursor.source state.cursor where
  position_eq := rfl
  current?_eq := rfl
  isFinished_eq := rfl
  rest_eq := rfl
  position_add := by
    obtain ⟨passed, hsource, hposition⟩ := state.cursor.placed
    rw [← hposition, ← hsource, Text.byteLength_append]
  current?_eq_head? := state.cursor.current?_eq_head?
  isFinished_iff := List.isEmpty_iff
  rest_eq_nil_iff := by rw [state.cursor.current?_eq_head?, List.head?_eq_none_iff]

/-- After any steps a tokenizer shows a cursor that has made the moves among them. -/
theorem shows_moved (source : Text) (label? : Option Text) (steps : List Step) :
    ((start source label?).after steps).Shows source (moved source steps) := by
  have hshows := shows_cursor ((start source label?).after steps)
  rwa [source_cursor_after, cursor_after] at hshows

/-- In a run from the beginning of a source, every step is met by a tokenizer that shows a cursor with the moves
made so far, and leaves one that shows a cursor with its own move made as well. The step is refused exactly if it
is to record from a place that lies ahead of the cursor or is none of the source, and then nothing changes. -/
theorem shows_after_start (source : Text) (label? : Option Text) (earlier : List Step) (step : Step)
    (later : List Step) :
    let first := start source label?
    let before := first.after earlier
    let next := first.after (earlier ++ [step])
    before.Shows source (moved source earlier) ∧ next.Shows source (moved source (earlier ++ [step])) ∧
      ∃ accepted,
        first.trace (earlier ++ step :: later) = first.trace earlier ++ (accepted, next) :: next.trace later ∧
          (accepted = false ↔ ∃ place kind, step = .recordFrom place kind ∧
            (before.cursor.position < place ∨ ¬Text.IsPlace place source)) ∧
          (accepted = false → next = before) := by
  intro first before next
  have hnext : next = before.leftBy step := by
    change first.after (earlier ++ [step]) = _
    rw [after_append, after_cons]
    rfl
  refine ⟨shows_moved source label? earlier, shows_moved source label? (earlier ++ [step]), before.accepts step, ?_, ?_,
    fun hrefused => ?_⟩
  · rw [trace_append, trace_cons, hnext]
  · have hsource : before.cursor.source = source := source_cursor_after first earlier
    rw [accepts_eq_false_iff, hsource]
  · rw [hnext, leftBy_of_accepts_eq_false hrefused]

end Tokenizer

end LkLexer
