/-!
# Texts and their places

Sources, token values, labels, paths and everything that is printed are lists of characters. A place in a
text is the number of bytes that the UTF-8 encoding of the characters before it takes, so not every number
is a place: one that falls inside a character, or past the end, is none. Main statements: cutting a text at
a place loses nothing, and it is refused exactly where there is no place (`cut?_eq_some_iff`,
`isSome_cut?_iff`).
-/

namespace LkLexer

/-- A text is the list of its characters. -/
abbrev Text := List Char

namespace Text

/-- The number of bytes in the UTF-8 encoding of a text. -/
def byteLength (text : Text) : Nat :=
  text.foldl (fun count c => count + c.utf8Size) 0

@[simp] theorem byteLength_nil : byteLength [] = 0 := rfl

/-- Counting on from a number adds the bytes to it. -/
theorem foldl_utf8Size (count : Nat) (text : Text) :
    text.foldl (fun count c => count + c.utf8Size) count = count + byteLength text := by
  induction text generalizing count with
  | nil => rfl
  | cons c text ih =>
    rw [byteLength, List.foldl_cons, List.foldl_cons, ih, ih (0 + c.utf8Size)]
    omega

@[simp] theorem byteLength_cons (c : Char) (text : Text) :
    byteLength (c :: text) = c.utf8Size + byteLength text := by
  rw [byteLength, List.foldl_cons, foldl_utf8Size, Nat.zero_add]

@[simp] theorem byteLength_append (front back : Text) :
    byteLength (front ++ back) = byteLength front + byteLength back := by
  rw [byteLength, List.foldl_append, foldl_utf8Size]
  rfl

/-- Only the empty text takes no bytes. -/
theorem byteLength_eq_zero_iff (text : Text) : byteLength text = 0 ↔ text = [] := by
  cases text with
  | nil => simp
  | cons c text =>
    have := c.utf8Size_pos
    simp only [byteLength_cons, reduceCtorEq, iff_false]
    omega

/-- Two fronts of one text that take the same number of bytes are the same. -/
theorem append_inj_of_byteLength {front front' back back' : Text}
    (heq : front ++ back = front' ++ back') (hlength : byteLength front = byteLength front') :
    front = front' ∧ back = back' := by
  induction front generalizing front' with
  | nil =>
    have : front' = [] := (byteLength_eq_zero_iff front').1 hlength.symm
    subst this
    exact ⟨rfl, heq⟩
  | cons c front ih =>
    cases front' with
    | nil => exact absurd ((byteLength_eq_zero_iff (c :: front)).1 hlength) (by simp)
    | cons c' front' =>
      simp only [List.cons_append, List.cons.injEq] at heq
      obtain ⟨rfl, heq⟩ := heq
      simp only [byteLength_cons, Nat.add_left_cancel_iff] at hlength
      obtain ⟨rfl, rfl⟩ := ih heq hlength
      exact ⟨rfl, rfl⟩

/-- Of two fronts of a text, the one with fewer bytes is a front of the other. -/
theorem exists_append_of_byteLength_le {front front' back back' : Text} (heq : front ++ back = front' ++ back')
    (hle : byteLength front ≤ byteLength front') : ∃ value, front' = front ++ value ∧ back = value ++ back' := by
  rcases List.append_eq_append_iff.1 heq with hfront | hfront
  · exact hfront
  · obtain ⟨value, rfl, rfl⟩ := hfront
    have hvalue : value = [] := by
      rw [← byteLength_eq_zero_iff]
      rw [byteLength_append] at hle
      omega
    subst hvalue
    exact ⟨[], by simp, by simp⟩

/-- A number is a place of a text when some front of the text takes that many bytes. -/
def IsPlace (place : Nat) (text : Text) : Prop :=
  ∃ front back, front ++ back = text ∧ byteLength front = place

/-- A number past the end of a text is none of its places. -/
theorem IsPlace.le_byteLength {place : Nat} {text : Text} (hplace : IsPlace place text) : place ≤ byteLength text := by
  obtain ⟨front, back, rfl, rfl⟩ := hplace
  rw [byteLength_append]
  exact Nat.le_add_right _ _

/-- Cuts a text once `count` more bytes are passed; `passed` holds the characters before, last one first. -/
def cutAfter? (count : Nat) (passed : Text) : Text → Option (Text × Text)
  | [] => if count = 0 then some (passed.reverse, []) else none
  | c :: rest =>
    if count = 0 then some (passed.reverse, c :: rest)
    else if c.utf8Size ≤ count then cutAfter? (count - c.utf8Size) (c :: passed) rest
    else none

/-- The parts of a text before and after a place, if the number given is one. -/
def cut? (place : Nat) (text : Text) : Option (Text × Text) :=
  cutAfter? place [] text

/-- What a cut finds behind the characters passed is a front of the right byte length, with all that follows. -/
theorem cutAfter?_eq_some_iff (count : Nat) (passed text front back : Text) :
    cutAfter? count passed text = some (front, back) ↔
      ∃ middle, front = passed.reverse ++ middle ∧ middle ++ back = text ∧ byteLength middle = count := by
  induction text generalizing count passed with
  | nil =>
    by_cases hcount : count = 0
    · subst hcount
      simp only [cutAfter?, ↓reduceIte, Option.some.injEq, Prod.mk.injEq, byteLength_eq_zero_iff]
      grind
    · simp only [cutAfter?, hcount, ↓reduceIte, reduceCtorEq, List.append_eq_nil_iff, false_iff]
      intro hsplit
      obtain ⟨middle, -, ⟨rfl, -⟩, rfl⟩ := hsplit
      exact hcount rfl
  | cons c rest ih =>
    have hpos := c.utf8Size_pos
    simp only [cutAfter?]
    split
    · next hcount =>
      subst hcount
      simp only [Option.some.injEq, Prod.mk.injEq, byteLength_eq_zero_iff]
      grind
    · next hcount =>
      split
      · next hfits =>
        rw [ih]
        constructor
        · intro hsplit
          obtain ⟨middle, rfl, rfl, hlength⟩ := hsplit
          exact ⟨c :: middle, by simp, rfl, by simp only [byteLength_cons]; omega⟩
        · intro hsplit
          obtain ⟨middle, rfl, hmiddle, hlength⟩ := hsplit
          cases middle with
          | nil => simp only [byteLength_nil] at hlength; omega
          | cons d middle =>
            simp only [List.cons_append, List.cons.injEq] at hmiddle
            obtain ⟨rfl, rfl⟩ := hmiddle
            exact ⟨middle, by simp, rfl, by simp only [byteLength_cons] at hlength; omega⟩
      · next hfits =>
        simp only [reduceCtorEq, false_iff]
        intro hsplit
        obtain ⟨middle, -, hmiddle, hlength⟩ := hsplit
        cases middle with
        | nil => simp only [byteLength_nil] at hlength; omega
        | cons d middle =>
          simp only [List.cons_append, List.cons.injEq] at hmiddle
          obtain ⟨rfl, -⟩ := hmiddle
          simp only [byteLength_cons] at hlength
          omega

/-- Cutting a text gives a front of the byte length asked for and the rest, and loses nothing. -/
theorem cut?_eq_some_iff (place : Nat) (text front back : Text) :
    cut? place text = some (front, back) ↔ front ++ back = text ∧ byteLength front = place := by
  simp [cut?, cutAfter?_eq_some_iff]

/-- A text can be cut exactly at its places. -/
theorem isSome_cut?_iff (place : Nat) (text : Text) : (cut? place text).isSome ↔ IsPlace place text := by
  rw [Option.isSome_iff_exists]
  constructor
  · intro hsplit
    obtain ⟨⟨front, back⟩, hcut⟩ := hsplit
    exact ⟨front, back, (cut?_eq_some_iff place text front back).1 hcut⟩
  · intro hsplit
    obtain ⟨front, back, hplace⟩ := hsplit
    exact ⟨(front, back), (cut?_eq_some_iff place text front back).2 hplace⟩

instance (place : Nat) (text : Text) : Decidable (IsPlace place text) :=
  decidable_of_iff _ (isSome_cut?_iff place text)

/-- The part of a text between two places in order; none when a number is no place or they are reversed. -/
def slice? (start stop : Nat) (text : Text) : Option Text :=
  if start ≤ stop then
    match cut? stop text with
    | some (front, _) => (cut? start front).map Prod.snd
    | none => none
  else none

/-- A slice is the part of the text that the fronts before its ends leave. -/
theorem slice?_eq_some_iff (start stop : Nat) (text value : Text) :
    slice? start stop text = some value ↔
      ∃ before after, before ++ value ++ after = text ∧ byteLength before = start ∧
        byteLength (before ++ value) = stop := by
  unfold slice?
  split
  · next hle =>
    cases hcut : cut? stop text with
    | none =>
      simp only [reduceCtorEq, false_iff]
      intro hsplit
      obtain ⟨before, after, happend, -, hstop⟩ := hsplit
      have := (cut?_eq_some_iff stop text (before ++ value) after).2 ⟨happend, hstop⟩
      rw [hcut] at this
      cases this
    | some parts =>
      obtain ⟨front, back⟩ := parts
      obtain ⟨happend, hstop⟩ := (cut?_eq_some_iff stop text front back).1 hcut
      simp only [Option.map_eq_some_iff, Prod.exists]
      constructor
      · intro hsplit
        obtain ⟨before, _, hbefore, rfl⟩ := hsplit
        obtain ⟨rfl, hstart⟩ := (cut?_eq_some_iff start front before _).1 hbefore
        exact ⟨before, back, happend, hstart, hstop⟩
      · intro hsplit
        obtain ⟨before, after, happend', hstart, hstop'⟩ := hsplit
        obtain ⟨rfl, -⟩ := append_inj_of_byteLength (happend'.trans happend.symm) (hstop'.trans hstop.symm)
        exact ⟨before, value, (cut?_eq_some_iff start _ before value).2 ⟨rfl, hstart⟩, rfl⟩
  · next hle =>
    simp only [reduceCtorEq, false_iff]
    intro hsplit
    obtain ⟨before, after, -, rfl, rfl⟩ := hsplit
    simp at hle

/-- Slicing is refused exactly when the ends are reversed or one of them is no place of the text. -/
theorem slice?_eq_none_iff (start stop : Nat) (text : Text) :
    slice? start stop text = none ↔ stop < start ∨ ¬IsPlace start text ∨ ¬IsPlace stop text := by
  constructor
  · intro hnone
    by_cases hle : stop < start
    · exact Or.inl hle
    by_cases hstart : IsPlace start text
    · refine Or.inr (Or.inr fun hstop => ?_)
      obtain ⟨before, after, happend, rfl⟩ := hstart
      obtain ⟨front, back, happend', rfl⟩ := hstop
      rcases List.append_eq_append_iff.1 (happend.trans happend'.symm) with ⟨value, rfl, rfl⟩ | ⟨value, rfl, rfl⟩
      · have hslice := (slice?_eq_some_iff (byteLength before) (byteLength (before ++ value)) text value).2
          ⟨before, back, happend', rfl, rfl⟩
        rw [hnone] at hslice
        cases hslice
      · have hvalue : value = [] := by
          rw [← byteLength_eq_zero_iff]
          simp only [byteLength_append] at hle
          omega
        subst hvalue
        have hslice := (slice?_eq_some_iff (byteLength (front ++ [])) (byteLength front) text []).2
          ⟨front, after, by simpa using happend, by simp, by simp⟩
        rw [hnone] at hslice
        cases hslice
    · exact Or.inr (Or.inl hstart)
  · intro hrefused
    cases hslice : slice? start stop text with
    | none => rfl
    | some value =>
      obtain ⟨before, after, happend, hstart, hstop⟩ := (slice?_eq_some_iff start stop text value).1 hslice
      have hstartPlace : IsPlace start text := ⟨before, value ++ after, by simpa using happend, hstart⟩
      have hstopPlace : IsPlace stop text := ⟨before ++ value, after, happend, hstop⟩
      simp only [byteLength_append] at hstop
      rcases hrefused with h | h | h
      · omega
      · exact absurd hstartPlace h
      · exact absurd hstopPlace h

/-- The decimal digits of a number, without leading zeros. -/
def decimal (n : Nat) : Text :=
  Nat.toDigits 10 n

/-- The hexadecimal digits of a number, in lower case and without leading zeros. -/
def hexadecimal (n : Nat) : Text :=
  Nat.toDigits 16 n

end Text

end LkLexer
