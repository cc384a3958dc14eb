/-!
# Sets of code points as ascending ranges

A property of characters is given by the inclusive ranges of the code points that have it, in ascending
order and apart from one another. Main statement: on such a list the search, which stops at the first range
that does not end before the code point, finds every member (`inRanges_iff`).
-/

namespace LkLexer.Unicode

/-- An inclusive range of code points. -/
structure CodeRange where
  first : Nat
  last : Nat
deriving DecidableEq

/-- Whether a code point lies in one of some ascending ranges. -/
def inRanges (code : Nat) : List CodeRange → Bool
  | [] => false
  | range :: later => if code ≤ range.last then decide (range.first ≤ code) else inRanges code later

/-- Each range holds a code point, and each one after the first starts past the end of the one before it. -/
def Ascending : List CodeRange → Prop
  | [] => True
  | [range] => range.first ≤ range.last
  | range :: next :: later => range.first ≤ range.last ∧ range.last < next.first ∧ Ascending (next :: later)

/-- Decides whether ranges are ascending. -/
def decideAscending : (ranges : List CodeRange) → Decidable (Ascending ranges)
  | [] => isTrue trivial
  | [range] => inferInstanceAs (Decidable (range.first ≤ range.last))
  | range :: next :: later =>
    have := decideAscending (next :: later)
    inferInstanceAs (Decidable (range.first ≤ range.last ∧ range.last < next.first ∧ _))

instance : DecidablePred Ascending := decideAscending

/-- In ascending ranges nothing lies before the first one. -/
theorem Ascending.first_le {range other : CodeRange} {later : List CodeRange} {code : Nat}
    (hascending : Ascending (range :: later)) (hmem : other ∈ range :: later) (hcode : other.first ≤ code) :
    range.first ≤ code := by
  induction later generalizing range with
  | nil =>
    obtain rfl := List.mem_singleton.1 hmem
    exact hcode
  | cons next later ih =>
    rcases List.mem_cons.1 hmem with rfl | hmem
    · exact hcode
    · obtain ⟨hrange, hgap, hascending⟩ := hascending
      have := ih hascending hmem
      omega

/-- The search finds exactly the code points that lie in one of the ranges. -/
theorem inRanges_iff {ranges : List CodeRange} (hascending : Ascending ranges) (code : Nat) :
    inRanges code ranges = true ↔ ∃ range ∈ ranges, range.first ≤ code ∧ code ≤ range.last := by
  induction ranges with
  | nil => simp [inRanges]
  | cons range later ih =>
    simp only [inRanges]
    split
    · next hlast =>
      rw [decide_eq_true_iff]
      constructor
      · exact fun hfirst => ⟨range, List.mem_cons_self, hfirst, hlast⟩
      · intro hrange
        obtain ⟨other, hmem, hfirst, -⟩ := hrange
        exact hascending.first_le hmem hfirst
    · next hlast =>
      have htail : Ascending later := by
        cases later with
        | nil => trivial
        | cons next later => exact hascending.2.2
      rw [ih htail]
      constructor
      · intro hmember
        obtain ⟨other, hmem, hother⟩ := hmember
        exact ⟨other, List.mem_cons_of_mem _ hmem, hother⟩
      · intro hmember
        obtain ⟨other, hmem, hother⟩ := hmember
        rcases List.mem_cons.1 hmem with rfl | hmem
        · exact absurd hother.2 hlast
        · exact ⟨other, hmem, hother⟩

end LkLexer.Unicode
