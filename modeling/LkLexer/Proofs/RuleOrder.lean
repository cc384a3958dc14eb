import LkLexer.Proofs.Progress
import Mathlib.Data.List.Perm.Basic

/-!
# The order of the rules decides nothing

At every place at most one rule of the language applies, the two forms of comment and the operators that share
no first character included. A search that takes the first rule is then a search for the only one, and finds it
wherever it stands in the table. Main statement: however the table is put in order, every source has the same
result (`tokenizeBy_eq_of_perm`).
-/

namespace LkLexer

namespace Rule

/-- At most one entry of the table applies at a place. -/
theorem countP_applies_table_le_one (rest : Text) : table.countP (·.applies rest) ≤ 1 := by
  have hpairwise := (pairwise_not_applies_table rest).filter (·.applies rest)
  rw [List.countP_eq_length_filter]
  cases hfilter : table.filter (·.applies rest) with
  | nil => exact Nat.zero_le 1
  | cons rule others =>
    cases others with
    | nil => exact Nat.le_refl 1
    | cons other later =>
      have happlies (entry : Rule) (hentry : entry ∈ rule :: other :: later) : entry.applies rest = true := by
        rw [← hfilter] at hentry
        exact (List.mem_filter.mp hentry).2
      rw [hfilter] at hpairwise
      exact absurd ⟨happlies rule (by simp), happlies other (by simp)⟩
        (List.rel_of_pairwise_cons hpairwise List.mem_cons_self)

/-- The rules of the language in any order lead to the same rule. -/
theorem find?_eq_find?_table {rules : List Rule} (hperm : rules.Perm table) (rest : Text) :
    rules.find? (·.applies rest) = table.find? (·.applies rest) := by
  ext rule
  rw [find?_eq_some_iff hperm.subset, find?_table_eq_some_iff, hperm.mem_iff]

end Rule

namespace Tokenizer

variable {rules others : List Rule} {state : Tokenizer} {entered : List Tokenizer} {ending : Ending}

/-- A run only depends on which rule is found at each place. -/
theorem Loops.of_find?_eq (hfind : ∀ rest, others.find? (·.applies rest) = rules.find? (·.applies rest))
    (hloops : Loops rules state entered ending) : Loops others state entered ending := by
  induction hloops with
  | finish hrest => exact .finish hrest
  | stop hrest hnone => exact .stop hrest ((hfind _).trans hnone)
  | fail hne hsome happly => exact .fail hne ((hfind _).trans hsome) happly
  | turn hne hsome happly _ ih => exact .turn hne ((hfind _).trans hsome) happly ih

/-- Runs by the rules of the language in any order end in the same way. -/
theorem run_eq_of_perm {rules : List Rule} (hperm : rules.Perm Rule.table) (hrules : ∀ rule ∈ rules, rule.Progresses)
    (htable : ∀ rule ∈ Rule.table, rule.Progresses) (state : Tokenizer) :
    state.run rules hrules = state.run Rule.table htable := by
  obtain ⟨entered, hloops⟩ := exists_loops_run Rule.table htable state
  exact (hloops.of_find?_eq (Rule.find?_eq_find?_table hperm)).run_eq hrules

end Tokenizer

/-- The table has fifteen rules, of which at most one applies at a place; and with its rules in any other order, all
of which make progress, every source, under every label, has the same tokens or the same error. -/
theorem tokenizeBy_eq_of_perm :
    Rule.table.length = 15 ∧ (∀ rest, Rule.table.countP (·.applies rest) ≤ 1) ∧
      ∀ rules : List Rule, rules.Perm Rule.table → ∃ hrules : ∀ rule ∈ rules, rule.Progresses,
        ∀ source label?, tokenizeBy rules hrules source label? = tokenize source label? := by
  refine ⟨rfl, Rule.countP_applies_table_le_one, fun rules hperm => ⟨fun rule hrule => ?_, fun source label? => ?_⟩⟩
  · exact Rule.progresses_of_mem_table (hperm.subset hrule)
  · exact congrArg Tokenizer.Ending.result (Tokenizer.run_eq_of_perm hperm _ _ _)

/-- Operators and comments with the table turned around, where the arrow is tried before both forms of comment. -/
theorem tokenizeBy_reverse_table_eq :
    let source := "a!=/*é*/->//\n".toList
    Rule.table.reverse.Perm Rule.table ∧ ∃ hrules : ∀ rule ∈ Rule.table.reverse, rule.Progresses,
      tokenizeBy Rule.table.reverse hrules source none = tokenize source none := by
  intro source
  have hperm := List.reverse_perm Rule.table
  obtain ⟨hrules, hsame⟩ := tokenizeBy_eq_of_perm.2.2 Rule.table.reverse hperm
  exact ⟨hperm, hrules, hsame source none⟩

end LkLexer
