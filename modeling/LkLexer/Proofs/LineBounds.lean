import LkLexer.Proofs.Lines
import LkLexer.Text.Bytes

/-!
# The bounds of a line

A number of bytes need not be a place of a text: it may fall inside a character or lie past the end. The search
for its line goes by the newlines all the same, and a newline is a single byte that is part of no other
character. So the line of a number is the one that it has among the bytes of the text, from behind the last
newline before it to behind the first newline at or behind it. Main statements: what is found is a line of the
text around the number (`exists_surrounds_locate`), and its number, its bytes and the column in closed form
(`locate_eq_among_bytes`).
-/

namespace LkLexer.Text

/-- A location is one of a number of bytes in a text whose first line has a given number: its line is a part of
the text, with other lines above it and below it, and the number, cut at the end of the text, falls on it. -/
structure Location.Surrounds (location : Location) (first place : Nat) (text above below : Text) : Prop where
  text_eq : above ++ location.text ++ below = text
  line_eq : location.line = first + above.count '\n'
  place_eq : byteLength above + location.column = min place (byteLength text)
  begins : above = [] ∨ ∃ front, above = front ++ ['\n']
  ends : ∃ front ending, location.text = front ++ ending ∧ '\n' ∉ front ∧ location.column ≤ byteLength front ∧
    (ending = ['\n'] ∨ ending = [] ∧ below = [])

/-- Whatever the number of bytes, a line of the text around it is found. -/
theorem exists_surrounds_locateFrom (first place : Nat) (text : Text) :
    ∃ above below, (locateFrom first place text).Surrounds first place text above below := by
  by_cases hnewline : '\n' ∈ text
  · obtain ⟨front, later, rfl, hfront⟩ := List.eq_append_cons_of_mem hnewline
    have hline : byteLength (front ++ ['\n']) = byteLength front + 1 := byteLength_append front ['\n']
    rw [locateFrom_append_newline hfront]
    split
    · next hplace =>
      have hcolumn : place ≤ byteLength front := by omega
      refine ⟨[], later, by simp, rfl, ?_, Or.inl rfl, front, _, rfl, hfront, hcolumn, Or.inl rfl⟩
      rw [byteLength_append_newline, byteLength_nil, Nat.zero_add, Nat.min_eq_left (by omega)]
    · next hplace =>
      -- The lines of the text behind the first newline, with the first line put above them.
      have hlater := exists_surrounds_locateFrom (first + 1) (place - byteLength (front ++ ['\n'])) later
      generalize locateFrom (first + 1) (place - byteLength (front ++ ['\n'])) later = location at hlater
      obtain ⟨above, below, htext, hnumber, hcolumn, hbegins, hends⟩ := hlater
      refine ⟨front ++ '\n' :: above, below, ?_, ?_, ?_, Or.inr ?_, hends⟩
      · rw [List.append_assoc, List.append_assoc, List.cons_append, ← List.append_assoc above, htext]
      · rw [hnumber, List.count_append, List.count_eq_zero.mpr hfront, List.count_cons_self]
        omega
      · rw [byteLength_append_newline front above, byteLength_append_newline front later, Nat.add_assoc, hcolumn,
          ← Nat.add_min_add_left, Nat.add_sub_of_le (Nat.not_lt.mp hplace)]
      · rcases hbegins with rfl | ⟨last, rfl⟩
        · exact ⟨front, rfl⟩
        · exact ⟨front ++ '\n' :: last, by simp⟩
  · rw [locateFrom_of_not_mem hnewline]
    exact ⟨[], [], by simp, rfl, by simp, Or.inl rfl, text, [], by simp, hnewline, Nat.min_le_right _ _,
      Or.inr ⟨rfl, rfl⟩⟩
termination_by text.length
decreasing_by
  subst_vars
  rw [List.length_append, List.length_cons]
  omega

/-- The line of a number of bytes in a text, with what is above and below it. -/
theorem exists_surrounds_locate (text : Text) (place : Nat) :
    ∃ above below, (locate text place).Surrounds 1 place text above below :=
  locate_eq_locateFrom text place ▸ exists_surrounds_locateFrom 1 place text

/-- The line of an offset in a text, with what is above and below it. -/
theorem exists_surrounds_lookUp (text : Text) (offset : UInt32) :
    ∃ above below, (lookUp text offset).Surrounds 1 offset.toNat text above below :=
  exists_surrounds_locate text offset.toNat

section Bytes

/-- Where the line of a place begins among bytes: one past the last newline before the place, or at the first
byte if there is none. -/
def lineStart (octets : List UInt8) (place : Nat) : Nat :=
  match (octets.take place).reverse.idxOf? newlineByte with
  | some back => place - back
  | none => 0

/-- Where the line of a place ends among bytes: one past the first newline at or behind the place, or behind the
last byte if there is none. -/
def lineStop (octets : List UInt8) (place : Nat) : Nat :=
  match (octets.drop place).idxOf? newlineByte with
  | some ahead => place + ahead + 1
  | none => octets.length

variable {above passed ahead : List UInt8}

/-- The first newline has as its index the number of bytes before it. -/
theorem idxOf?_append_newline (hahead : newlineByte ∉ ahead) (below : List UInt8) :
    (ahead ++ newlineByte :: below).idxOf? newlineByte = some ahead.length := by
  induction ahead with
  | nil => simp [List.idxOf?_cons]
  | cons octet ahead ih =>
    rw [List.mem_cons, not_or] at hahead
    simp [List.idxOf?_cons, Ne.symm hahead.1, ih hahead.2]

/-- Behind whole lines and bytes without a newline, the line begins where these bytes do. -/
theorem lineStart_append (hbegins : above = [] ∨ ∃ front, above = front ++ [newlineByte])
    (hpassed : newlineByte ∉ passed) (rest : List UInt8) :
    lineStart (above ++ passed ++ rest) (above ++ passed).length = above.length := by
  have hreverse : newlineByte ∉ passed.reverse := by simpa using hpassed
  rw [lineStart, List.take_left, List.reverse_append]
  rcases hbegins with rfl | ⟨front, rfl⟩
  · rw [List.reverse_nil, List.append_nil, List.idxOf?_eq_none_iff.mpr hreverse]
    rfl
  · rw [List.reverse_append, List.reverse_singleton, List.singleton_append, idxOf?_append_newline hreverse,
      List.length_append, List.length_reverse]
    exact Nat.add_sub_cancel _ _

/-- In front of bytes without a newline and a newline, the line ends behind the newline. -/
theorem lineStop_append_newline (hahead : newlineByte ∉ ahead) (before below : List UInt8) :
    lineStop (before ++ (ahead ++ newlineByte :: below)) before.length = before.length + ahead.length + 1 := by
  rw [lineStop, List.drop_left, idxOf?_append_newline hahead]

/-- In front of bytes without a newline, the line ends with the last of them. -/
theorem lineStop_of_not_mem (hahead : newlineByte ∉ ahead) (before : List UInt8) :
    lineStop (before ++ ahead) before.length = before.length + ahead.length := by
  rw [lineStop, List.drop_left, List.idxOf?_eq_none_iff.mpr hahead, List.length_append]

end Bytes

namespace Location.Surrounds

variable {location : Location} {first place : Nat} {text above below : Text}

/-- The bytes of the text: of the lines above, of the line up to the number and behind it, neither with a newline,
of the line's ending, and of the lines below. -/
theorem exists_bytes_eq (hsurrounds : location.Surrounds first place text above below) :
    ∃ passed ahead ending, bytes location.text = passed ++ (ahead ++ bytes ending) ∧
      bytes text = bytes above ++ passed ++ (ahead ++ (bytes ending ++ bytes below)) ∧
      (bytes above ++ passed).length = min place (byteLength text) ∧ newlineByte ∉ passed ∧ newlineByte ∉ ahead ∧
      (ending = ['\n'] ∨ ending = [] ∧ below = []) := by
  obtain ⟨htext, -, hplace, -, front, ending, hfront, hinline, hcolumn, hending⟩ := hsurrounds
  rw [← newlineByte_mem_bytes_iff] at hinline
  rw [← length_bytes] at hcolumn
  have hline : bytes location.text =
      (bytes front).take location.column ++ ((bytes front).drop location.column ++ bytes ending) := by
    rw [← List.append_assoc, List.take_append_drop, ← bytes_append, hfront]
  refine ⟨_, _, ending, hline, ?_, ?_, ?_, ?_, hending⟩
  · rw [← htext, bytes_append, bytes_append, hline]
    simp only [List.append_assoc]
  · rw [List.length_append, List.length_take_of_le hcolumn, length_bytes, hplace]
  · exact fun hmem => hinline (List.mem_of_mem_take hmem)
  · exact fun hmem => hinline (List.mem_of_mem_drop hmem)

/-- Before the number, the newlines among the bytes are those of the lines above. -/
theorem count_newlineByte_take (hsurrounds : location.Surrounds first place text above below) :
    ((bytes text).take (min place (byteLength text))).count newlineByte = above.count '\n' := by
  obtain ⟨passed, ahead, ending, -, hbytes, hplace, hpassed, -⟩ := hsurrounds.exists_bytes_eq
  rw [← hplace, hbytes, List.take_left, List.count_append, count_newlineByte_bytes, List.count_eq_zero.mpr hpassed]
  exact Nat.add_zero _

/-- Among the bytes, the line of the number begins behind the lines above. -/
theorem lineStart_eq (hsurrounds : location.Surrounds first place text above below) :
    lineStart (bytes text) (min place (byteLength text)) = byteLength above := by
  obtain ⟨passed, ahead, ending, -, hbytes, hplace, hpassed, -⟩ := hsurrounds.exists_bytes_eq
  have hbegins : bytes above = [] ∨ ∃ front, bytes above = front ++ [newlineByte] := by
    rcases hsurrounds.begins with rfl | ⟨front, rfl⟩
    · exact Or.inl rfl
    · exact Or.inr ⟨bytes front, bytes_append front ['\n']⟩
  rw [← hplace, hbytes, lineStart_append hbegins hpassed, length_bytes]

/-- Among the bytes, the line of the number ends before the lines below. -/
theorem lineStop_eq (hsurrounds : location.Surrounds first place text above below) :
    lineStop (bytes text) (min place (byteLength text)) = byteLength (above ++ location.text) := by
  obtain ⟨passed, ahead, ending, hline, hbytes, hplace, -, hahead, hending⟩ := hsurrounds.exists_bytes_eq
  have hlength : byteLength (above ++ location.text) =
      (bytes above ++ passed).length + ahead.length + (bytes ending).length := by
    rw [← length_bytes, bytes_append, hline]
    simp only [List.length_append, Nat.add_assoc]
  rw [← hplace, hbytes, hlength]
  rcases hending with rfl | ⟨rfl, rfl⟩
  · exact lineStop_append_newline hahead _ (bytes below)
  · change lineStop (_ ++ (ahead ++ [])) _ = _
    rw [List.append_nil]
    exact lineStop_of_not_mem hahead _

/-- The line has a newline only at its end. -/
theorem newline_not_mem_or (hsurrounds : location.Surrounds first place text above below) :
    '\n' ∉ location.text ∨ ∃ line, location.text = line ++ ['\n'] ∧ '\n' ∉ line := by
  obtain ⟨-, -, -, -, front, ending, hfront, hinline, -, rfl | ⟨rfl, -⟩⟩ := hsurrounds
  · exact Or.inr ⟨front, hfront, hinline⟩
  · exact Or.inl (by simpa [hfront] using hinline)

/-- The column is a place of the line exactly when the number, cut at the end of the text, is one of the text. -/
theorem isPlace_column_iff (hsurrounds : location.Surrounds first place text above below) :
    IsPlace location.column location.text ↔ IsPlace (min place (byteLength text)) text := by
  obtain ⟨rfl, -, hplace, -, front, ending, hfront, -, hcolumn, -⟩ := hsurrounds
  rw [← hplace]
  refine ⟨fun hline => ?_, fun hwhole => ?_⟩
  · obtain ⟨before, ahead, hline, hbefore⟩ := hline
    refine ⟨above ++ before, ahead ++ below, ?_, ?_⟩
    · rw [← hline]
      simp only [List.append_assoc]
    · rw [byteLength_append, hbefore]
  · obtain ⟨before, behind, hwhole, hbefore⟩ := hwhole
    -- The cut is behind the lines above, and in the line as the column does not pass its end.
    rw [List.append_assoc] at hwhole
    obtain ⟨passed, rfl, hpassed⟩ := exists_append_of_byteLength_le hwhole.symm (by omega)
    rw [byteLength_append, Nat.add_left_cancel_iff] at hbefore
    have hle : byteLength passed ≤ byteLength location.text := by
      rw [hbefore, hfront, byteLength_append]
      omega
    obtain ⟨ahead, hline, -⟩ := exists_append_of_byteLength_le hpassed.symm hle
    exact ⟨passed, ahead, hline.symm, hbefore⟩

/-- A character at a place of the text is the one that the line has behind the column. -/
theorem exists_ahead_eq_cons (hsurrounds : location.Surrounds first place text above below)
    {before ahead front rest : Text} {c : Char} (hline : before ++ ahead = location.text)
    (hcolumn : byteLength before = location.column) (htext : front ++ c :: rest = text)
    (hfront : byteLength front = place) : ∃ more, ahead = c :: more := by
  obtain ⟨hparts, -, hplace, -, inline, ending, hinline, -, hcolumnLe, hending⟩ := hsurrounds
  have hle : place ≤ byteLength text := by
    rw [← htext, byteLength_append, hfront]
    exact Nat.le_add_right _ _
  have hsplit : above ++ before ++ (ahead ++ below) = front ++ c :: rest := by
    rw [htext, ← hparts, ← hline]
    simp only [List.append_assoc]
  have hlength : byteLength (above ++ before) = byteLength front := by
    rw [byteLength_append, hcolumn, hplace, hfront, Nat.min_eq_left hle]
  obtain ⟨-, hahead⟩ := append_inj_of_byteLength hsplit hlength
  cases ahead with
  | cons d more =>
    obtain ⟨rfl, -⟩ := List.cons.inj hahead
    exact ⟨more, rfl⟩
  | nil =>
    -- Nothing is left of the line only at the end of the text.
    exfalso
    rcases hending with rfl | ⟨-, rfl⟩
    · have hlength := congrArg byteLength (hline.trans hinline)
      rw [List.append_nil, byteLength_append, hcolumn] at hlength
      have : byteLength ['\n'] = 1 := rfl
      omega
    · cases hahead

end Location.Surrounds

/-- The line of a number of bytes is found as it is among the bytes of the text. With the number cut at the end
of the text, the line is numbered by the newlines before it; it goes from behind the last of these to behind
the first one at or behind it, or to the end; and the column is the rest of the number. -/
theorem locate_eq_among_bytes (content : Text) (position : Nat) :
    let octets := bytes content
    let place := min position octets.length
    let start := lineStart octets place
    let stop := lineStop octets place
    let location := locate content position
    location.line = 1 + (octets.take place).count newlineByte ∧
      bytes location.text = (octets.take stop).drop start ∧
      slice? start stop content = some location.text ∧
      start + location.column = place := by
  obtain ⟨above, below, hsurrounds⟩ := exists_surrounds_locate content position
  dsimp only
  rw [length_bytes, hsurrounds.count_newlineByte_take, hsurrounds.lineStart_eq, hsurrounds.lineStop_eq]
  refine ⟨hsurrounds.line_eq, ?_, ?_, hsurrounds.place_eq⟩
  · have hbytes := congrArg bytes hsurrounds.text_eq
    rw [← hbytes, bytes_append, ← length_bytes, ← length_bytes, List.take_left, bytes_append, List.drop_left]
  · rw [slice?_eq_some_iff]
    exact ⟨above, below, hsurrounds.text_eq, rfl, rfl⟩

example : [2, 5, 9].map (locate "aé\n€".toList) = [⟨1, "aé\n".toList, 2⟩, ⟨2, "€".toList, 1⟩, ⟨2, "€".toList, 3⟩] := by
  decide +kernel

end LkLexer.Text
