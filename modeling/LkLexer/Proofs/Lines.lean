import LkLexer.Text.Location
import Mathlib.Data.List.DropRight

/-!
# Lines around a place

A place is looked for among the pieces of a text, and the end of the text apart from them. Both are one search that
leaves line after line behind (`locateFrom`, `locate_eq_locateFrom`). What it finds depends only on the parts of the
text before and behind the place: the line begins behind the last newline before it, ends with the first newline
behind it, and is numbered by the newlines before it. Main statement: the location of a place in closed form
(`locate_append`).
-/

namespace LkLexer.Text

/-- The characters behind the last newline of a text. -/
def lastLine (text : Text) : Text :=
  text.rtakeWhile isInline

/-- The characters up to the first newline of a text, with the newline if there is one. -/
def firstLine (text : Text) : Text :=
  text.takeWhile isInline ++ (text.dropWhile isInline).take 1

/-- The location of a place in a text whose first line has the number given. -/
def locateFrom (line place : Nat) (text : Text) : Location :=
  match _hrest : text.dropWhile isInline with
  | [] => ⟨line, text, min place (byteLength text)⟩
  | newline :: following =>
    let first := text.takeWhile isInline ++ [newline]
    if place < byteLength first then ⟨line, first, place⟩
    else locateFrom (line + 1) (place - byteLength first) following
termination_by text.length
decreasing_by
  have hlength := (List.dropWhile_suffix isInline (l := text)).length_le
  rw [_hrest, List.length_cons] at hlength
  omega

/-- The location of the end of a text on its last line, with the number that a line behind all pieces has. -/
def locateLast (line : Nat) (text : Text) : Location :=
  if text = [] ∨ text.getLast? = some '\n' then ⟨line, [], 0⟩
  else ⟨line - 1, lastLine text, byteLength (lastLine text)⟩

/-- All characters of a text are inline when the newline is none of them. -/
theorem forall_isInline_iff (text : Text) : (∀ c ∈ text, isInline c = true) ↔ '\n' ∉ text := by
  simp only [isInline, decide_eq_true_iff]
  exact ⟨fun hall hmem => hall _ hmem rfl, fun hmem c hc heq => hmem (heq ▸ hc)⟩

section Runs

variable {members : Char → Bool} {c : Char}

/-- A run from the beginning ends before a character that is no member of it. -/
theorem takeWhile_append_cons_of_neg (hc : members c = false) (front back : Text) :
    (front ++ c :: back).takeWhile members = front.takeWhile members := by
  induction front with
  | nil => simp [hc]
  | cons d front ih => by_cases hd : members d = true <;> simp [hd, ih]

/-- What is behind a run from the beginning keeps a character that is no member of it. -/
theorem dropWhile_append_cons_of_neg (hc : members c = false) (front back : Text) :
    (front ++ c :: back).dropWhile members = front.dropWhile members ++ c :: back := by
  induction front with
  | nil => simp [hc]
  | cons d front ih => by_cases hd : members d = true <;> simp [hd, ih]

/-- What is behind a run from the beginning has the characters that the run has not. -/
theorem length_sub_length_takeWhile (members : Char → Bool) (text : Text) :
    text.length - (text.takeWhile members).length = (text.dropWhile members).length := by
  have hlength := congrArg List.length (List.takeWhile_append_dropWhile (p := members) (l := text))
  rw [List.length_append] at hlength
  omega

end Runs

/-- A text without a newline is its own last line. -/
theorem lastLine_of_not_mem {text : Text} (hinline : '\n' ∉ text) : lastLine text = text :=
  List.rtakeWhile_eq_self_iff.mpr ((forall_isInline_iff text).mpr hinline)

/-- What stands before a newline does not count for the last line. -/
theorem lastLine_append_newline (front later : Text) : lastLine (front ++ '\n' :: later) = lastLine later := by
  have hreverse : (front ++ '\n' :: later).reverse = later.reverse ++ '\n' :: front.reverse := by simp
  rw [lastLine, List.rtakeWhile, hreverse, takeWhile_append_cons_of_neg (by decide)]
  rfl

/-- The first line ends with the first newline. -/
theorem firstLine_append_newline {front : Text} (hfront : '\n' ∉ front) (later : Text) :
    firstLine (front ++ '\n' :: later) = front ++ ['\n'] := by
  have hinline := (forall_isInline_iff front).mpr hfront
  rw [firstLine, List.takeWhile_append_of_pos hinline, List.dropWhile_append_of_pos hinline]
  simp [isInline]

/-- A text without a newline is its own first line. -/
theorem firstLine_of_not_mem {text : Text} (hinline : '\n' ∉ text) : firstLine text = text := by
  have hall := (forall_isInline_iff text).mpr hinline
  rw [firstLine, List.takeWhile_eq_self_iff.mpr hall, List.dropWhile_eq_nil_iff.mpr hall]
  exact List.append_nil text

/-- The bytes of a first line and of what is behind it. -/
theorem byteLength_append_newline (front later : Text) :
    byteLength (front ++ '\n' :: later) = byteLength (front ++ ['\n']) + byteLength later := by
  rw [← byteLength_append, List.append_assoc, List.singleton_append]

/-- A first line that begins with a character other than the newline goes on behind it. -/
theorem firstLine_cons {c : Char} (hc : isInline c = true) (text : Text) :
    firstLine (c :: text) = c :: firstLine text := by
  rw [firstLine, List.takeWhile_cons_of_pos hc, List.dropWhile_cons_of_pos hc]
  rfl

section Pieces

variable {front text : Text}

/-- A text without a newline is a single piece, unless it is empty. -/
theorem pieces_of_not_mem (htext : '\n' ∉ text) : pieces text = if text = [] then [] else [text] := by
  induction text with
  | nil => rfl
  | cons c text ih =>
    rw [List.mem_cons, not_or] at htext
    rw [pieces, if_neg (Ne.symm htext.1), ih htext.2, if_neg (List.cons_ne_nil c text)]
    cases text <;> rfl

/-- The first piece ends with the first newline. -/
theorem pieces_append_newline (hfront : '\n' ∉ front) (later : Text) :
    pieces (front ++ '\n' :: later) = (front ++ ['\n']) :: pieces later := by
  induction front with
  | nil => rfl
  | cons c front ih =>
    rw [List.mem_cons, not_or] at hfront
    rw [List.cons_append, pieces, if_neg (Ne.symm hfront.1), ih hfront.2]
    rfl

/-- What stands before a newline does not count for the end of a text. -/
theorem locateLast_append_newline (line : Nat) (front later : Text) :
    locateLast line (front ++ '\n' :: later) = locateLast line later := by
  have hends : (front ++ '\n' :: later).getLast? = some '\n' ↔ later = [] ∨ later.getLast? = some '\n' := by
    rw [List.getLast?_append]
    cases later <;> simp
  simp only [locateLast, hends, lastLine_append_newline, List.append_eq_nil_iff, reduceCtorEq, and_false, false_or]

/-- The end of a text is on its last line, also where the text has no other line. -/
theorem locateEnd_eq_locateLast (text : Text) :
    locateEnd (1 + (pieces text).length) text = locateLast (1 + (pieces text).length) text := by
  unfold locateEnd locateLast behindNewline?
  split
  · rfl
  · next hopen =>
    rw [not_or] at hopen
    split_ifs with hnewline
    · rfl
    · rw [pieces_of_not_mem hnewline, if_neg hopen.1, lastLine_of_not_mem hnewline]
      rfl

end Pieces

section Locating

variable {front text : Text}

/-- A text without a newline is a single line. -/
theorem locateFrom_of_not_mem (htext : '\n' ∉ text) (line place : Nat) :
    locateFrom line place text = ⟨line, text, min place (byteLength text)⟩ := by
  have hdrop : text.dropWhile isInline = [] :=
    List.dropWhile_eq_nil_iff.mpr ((forall_isInline_iff text).mpr htext)
  rw [locateFrom]
  split
  · rfl
  · next hrest =>
    rw [hdrop] at hrest
    cases hrest

/-- A place is on the first line up to its newline, and is searched for behind it otherwise. -/
theorem locateFrom_append_newline (hfront : '\n' ∉ front) (line place : Nat) (later : Text) :
    locateFrom line place (front ++ '\n' :: later) =
      if place < byteLength (front ++ ['\n']) then ⟨line, front ++ ['\n'], place⟩
      else locateFrom (line + 1) (place - byteLength (front ++ ['\n'])) later := by
  have hinline := (forall_isInline_iff front).mpr hfront
  have hdrop : (front ++ '\n' :: later).dropWhile isInline = '\n' :: later :=
    List.dropWhile_append_of_pos hinline
  have htake : (front ++ '\n' :: later).takeWhile isInline = front := by
    rw [List.takeWhile_append_of_pos hinline]
    exact List.append_nil front
  rw [locateFrom]
  split
  · next hrest =>
    rw [hdrop] at hrest
    cases hrest
  · next newline following hrest =>
    obtain ⟨rfl, rfl⟩ := List.cons.inj (hdrop.symm.trans hrest)
    rw [htake]

/-- Looking for a place in a text without a newline, from a start and a line number on, and then at its end. -/
theorem getD_locateAmong?_of_not_mem (htext : '\n' ∉ text) (start line place : Nat) :
    (locateAmong? (start + min place (byteLength text)) start line (pieces text)).getD
        (locateLast (line + (pieces text).length) text) =
      ⟨line, text, min place (byteLength text)⟩ := by
  rw [pieces_of_not_mem htext]
  split_ifs with hempty
  · subst hempty
    simp [locateAmong?, locateLast]
  · rw [locateAmong?]
    split_ifs with hpiece
    · rw [Nat.add_sub_cancel_left]
      rfl
    · have hend : ¬(text = [] ∨ text.getLast? = some '\n') :=
        not_or.mpr ⟨hempty, fun hlast => htext (List.mem_of_getLast? hlast)⟩
      rw [locateAmong?, locateLast, if_neg hend, lastLine_of_not_mem htext, Nat.min_eq_right (by omega)]
      rfl

/-- Looking for a place among the pieces of a text, from a start and a line number on, and then at its end, is to look
for it line by line. -/
theorem getD_locateAmong?_pieces (start line place : Nat) (text : Text) :
    (locateAmong? (start + min place (byteLength text)) start line (pieces text)).getD
        (locateLast (line + (pieces text).length) text) =
      locateFrom line place text := by
  by_cases htext : '\n' ∈ text
  · obtain ⟨front, later, rfl, hfront⟩ := List.eq_append_cons_of_mem htext
    rw [pieces_append_newline hfront, locateLast_append_newline, locateFrom_append_newline hfront, locateAmong?,
      byteLength_append_newline]
    split_ifs with hpiece hplace hplace
    · rw [Nat.min_eq_left (by omega), Nat.add_sub_cancel_left]
      rfl
    · omega
    · omega
    · -- The first piece is passed, and the place is looked for in what is behind it.
      have hmin : start + min place (byteLength (front ++ ['\n']) + byteLength later) =
          start + byteLength (front ++ ['\n']) + min (place - byteLength (front ++ ['\n'])) (byteLength later) := by
        omega
      have hcount : line + (pieces later).length.succ = line + 1 + (pieces later).length := by omega
      rw [hmin, List.length_cons, hcount]
      exact getD_locateAmong?_pieces _ (line + 1) _ later
  · rw [getD_locateAmong?_of_not_mem htext, locateFrom_of_not_mem htext]
termination_by text.length
decreasing_by
  subst_vars
  rw [List.length_append, List.length_cons]
  omega

/-- The location of a place is what a search line by line finds. -/
theorem locate_eq_locateFrom (text : Text) (place : Nat) : locate text place = locateFrom 1 place text := by
  rw [← getD_locateAmong?_pieces 0 1 place text, ← locateEnd_eq_locateLast, Nat.zero_add, locate]
  cases locateAmong? (min place (byteLength text)) 0 1 (pieces text) <;> rfl

/-- The line of a place is numbered by the newlines before it, and the place parts it into what is behind the
last of these newlines and what goes up to the next one. A number of bytes further on, up to that next newline,
the line is the same. -/
theorem locateFrom_append_add (line : Nat) (before : Text) {after : Text} {count : Nat}
    (hcount : count ≤ byteLength (after.takeWhile isInline)) :
    locateFrom line (byteLength before + count) (before ++ after) =
      ⟨line + before.count '\n', lastLine before ++ firstLine after, byteLength (lastLine before) + count⟩ := by
  -- By the newlines before the place: the search leaves the line of the first one behind.
  by_cases hbefore : '\n' ∈ before
  · obtain ⟨front, later, rfl, hfront⟩ := List.eq_append_cons_of_mem hbefore
    have hnewlines : (front ++ '\n' :: later).count '\n' = later.count '\n' + 1 := by
      rw [List.count_append, List.count_eq_zero.mpr hfront, List.count_cons_self, Nat.zero_add]
    rw [byteLength_append_newline, Nat.add_assoc, hnewlines, lastLine_append_newline, List.append_assoc,
      List.cons_append, locateFrom_append_newline hfront, if_neg (Nat.not_lt.mpr (Nat.le_add_right _ _)),
      Nat.add_sub_cancel_left, locateFrom_append_add (line + 1) later hcount]
    congr 1
    omega
  · rw [lastLine_of_not_mem hbefore, List.count_eq_zero.mpr hbefore]
    by_cases hafter : '\n' ∈ after
    · obtain ⟨front, later, rfl, hfront⟩ := List.eq_append_cons_of_mem hafter
      have hline : '\n' ∉ before ++ front := by simp [hbefore, hfront]
      have hplace : byteLength before + count < byteLength (before ++ front ++ ['\n']) := by
        rw [takeWhile_append_cons_of_neg (by decide),
          List.takeWhile_eq_self_iff.mpr ((forall_isInline_iff front).mpr hfront)] at hcount
        simp only [byteLength_append, byteLength_cons]
        have := '\n'.utf8Size_pos
        omega
      rw [firstLine_append_newline hfront, ← List.append_assoc, ← List.append_assoc, locateFrom_append_newline hline,
        if_pos hplace]
      rfl
    · have hline : '\n' ∉ before ++ after := by simp [hbefore, hafter]
      rw [List.takeWhile_eq_self_iff.mpr ((forall_isInline_iff after).mpr hafter)] at hcount
      rw [firstLine_of_not_mem hafter, locateFrom_of_not_mem hline, byteLength_append,
        Nat.min_eq_left (Nat.add_le_add_left hcount _)]
      rfl
termination_by before.length

/-- A number of bytes on the rest of the line of a place is located by the parts of the text before and behind
that place. -/
theorem locate_append_add (before : Text) {after : Text} {count : Nat}
    (hcount : count ≤ byteLength (after.takeWhile isInline)) :
    locate (before ++ after) (byteLength before + count) =
      ⟨1 + before.count '\n', lastLine before ++ firstLine after, byteLength (lastLine before) + count⟩ := by
  rw [locate_eq_locateFrom, locateFrom_append_add 1 before hcount]

/-- A place of a text is located by the parts of the text before and behind it. -/
theorem locate_append (before after : Text) :
    locate (before ++ after) (byteLength before) =
      ⟨1 + before.count '\n', lastLine before ++ firstLine after, byteLength (lastLine before)⟩ :=
  locate_append_add before (Nat.zero_le _)

end Locating

end LkLexer.Text
