import LkLexer.Text.Basic

/-!
# How similar two texts are

The similarity of Jaro compares two short words that may be spelled differently. Characters agree when they
are equal and stand not too far apart in the two words, each being used once; agreeing characters that come
in another order count for half. What agrees is found exactly, with natural numbers. Only the ratio made of
it is a number in double precision, in which thresholds and ties are decided too.
-/

namespace LkLexer.Text

/-- The characters of a text, each with whether it agrees with one of the other text already. -/
abbrev Marked := List (Char × Bool)

/-- Marks the first free character between two positions that equals the one given, if there is one. -/
def mark? (c : Char) (low high position : Nat) : Marked → Option Marked
  | [] => none
  | (d, used) :: later =>
    if high < position then none
    else if low ≤ position ∧ used = false ∧ d = c then some ((d, true) :: later)
    else (mark? c low high (position + 1) later).map ((d, used) :: ·)

/-- The characters of a text, from a position on, that agree with ones of another text, which get marked. -/
def agreeing (reach position : Nat) (text : Text) (other : Marked) : Text × Marked :=
  match text with
  | [] => ([], other)
  | c :: later =>
    match mark? c (position - reach) (position + reach) 0 other with
    | none => agreeing reach (position + 1) later other
    | some marked =>
      let (found, final) := agreeing reach (position + 1) later marked
      (c :: found, final)

/-- How far two texts agree: in how many characters, and how many pairs of those are swapped. -/
structure Agreement where
  common : Nat
  swapped : Nat
deriving DecidableEq

/-- The characters of two texts that agree, in the order of each of them. -/
def agreeingOrders (text other : Text) : Text × Text :=
  let reach := max text.length other.length / 2 - 1
  let (found, marked) := agreeing reach 0 text (other.map fun d => (d, false))
  (found, (marked.filter Prod.snd).map Prod.fst)

/-- How far two texts agree. Two places at which the orders differ make one swap. -/
def agreement (text other : Text) : Agreement :=
  let (found, foundOther) := agreeingOrders text other
  ⟨found.length, ((found.zip foundOther).countP fun (c, d) => c ≠ d) / 2⟩

/-- The similarity of two texts, from zero to one: the mean of the parts of each that agree and of the part
of the agreement that is in order. -/
def similarity (text other : Text) : Float :=
  let ⟨common, swapped⟩ := agreement text other
  if common = 0 then 0
  else
    (common.toFloat / text.length.toFloat + common.toFloat / other.length.toFloat +
      (common - swapped).toFloat / common.toFloat) / 3

end LkLexer.Text
