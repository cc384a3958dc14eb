import LkLexer.Diagnostic
import LkLexer.Proofs.LineBounds
import LkLexer.Proofs.Numerals

/-!
# The layout of a diagnostic

A diagnostic can be rendered for any offset but one inside a character. It ends with three lines that share a
gutter: an empty one, the line of the place without its indentation and the white space at its end, and one
with nothing but a caret. The caret moves with the indentation, but not past the gutter when the place lies
inside the indentation itself, and it may stand behind what is shown. Main statement: when there is a rendering,
and where everything stands in it (`render?_layout`).
-/

namespace LkLexer.Diagnostic

/-- A line parted into its indentation, what is shown of it and the white space at its end. Both cuts go as far
as they can, that of the indentation first. -/
structure Trims (line indent kept trailing : Text) : Prop where
  parts : indent ++ kept ++ trailing = line
  indents : ∀ c ∈ indent, c = ' ' ∨ c = '\t'
  indent_stops : ∀ c ∈ (kept ++ trailing).head?, c ≠ ' ' ∧ c ≠ '\t'
  trails : ∀ c ∈ trailing, Unicode.isWhiteSpace c = true
  trailing_stops : ∀ c ∈ kept.getLast?, Unicode.isWhiteSpace c = false

/-- The first bar of a line has an index. -/
def BarAt (index : Nat) (line : Text) : Prop :=
  ∃ margin rest, line = margin ++ '|' :: rest ∧ '|' ∉ margin ∧ margin.length = index

/-- A rendering ends with three lines that have their bars at one index, of which the second is shown in full
and the third has a caret at its end and nowhere else. -/
def LaysOut (rendered shown : Text) (bar caret : Nat) : Prop :=
  ∃ above empty blank, rendered = above ++ ['\n'] ++ empty ++ ['\n'] ++ shown ++ ['\n'] ++ (blank ++ ['^']) ++ ['\n'] ∧
    (∀ line ∈ [empty, shown, blank ++ ['^']], '\n' ∉ line ∧ BarAt bar line) ∧ '^' ∉ blank ∧ blank.length = caret

/-- Cutting the end of a text adds nothing to it. -/
theorem mem_of_mem_trimEnd {c : Char} {text : Text} (hmem : c ∈ trimEnd text) : c ∈ text :=
  (List.rdropWhile_prefix Unicode.isWhiteSpace text).mem hmem

/-- A newline at the end of a text is cut off. -/
theorem trimEnd_append_newline (text : Text) : trimEnd (text ++ ['\n']) = trimEnd text :=
  List.rdropWhile_concat_pos Unicode.isWhiteSpace text '\n' (by decide)

/-- Cutting the end of a text stops at a character that is no white space. -/
theorem trimEnd_append_cons {c : Char} (hc : Unicode.isWhiteSpace c = false) (front back : Text) :
    trimEnd (front ++ c :: back) = front ++ c :: trimEnd back := by
  have hreverse : (front ++ c :: back).reverse = back.reverse ++ c :: front.reverse := by simp
  rw [trimEnd, hreverse, Text.dropWhile_append_cons_of_neg hc]
  simp [trimEnd]

/-- A character that is no white space indents no line. -/
theorem isIndent_eq_false {c : Char} (hc : Unicode.isWhiteSpace c = false) : isIndent c = false := by
  have hspace : c ≠ ' ' := by
    rintro rfl
    exact absurd hc (by decide)
  have htab : c ≠ '\t' := by
    rintro rfl
    exact absurd hc (by decide)
  simp [isIndent, hspace, htab]

/-- A line is shown without a newline, if it has none but at its end. -/
theorem newline_not_mem_shownLine {text : Text} (htext : '\n' ∉ text ∨ ∃ line, text = line ++ ['\n'] ∧ '\n' ∉ line)
    (number column : Nat) : '\n' ∉ shownLine ⟨number, text, column⟩ := by
  have htrimmed : '\n' ∉ trimEnd (text.dropWhile isIndent) := by
    rcases htext with htext | ⟨line, rfl, hline⟩
    · exact fun hmem => htext ((List.dropWhile_sublist isIndent).mem (mem_of_mem_trimEnd hmem))
    · rw [Text.dropWhile_append_cons_of_neg (by decide), trimEnd_append_newline]
      exact fun hmem => hline ((List.dropWhile_sublist isIndent).mem (mem_of_mem_trimEnd hmem))
  rw [shownLine, List.mem_append, List.mem_append, not_or, not_or]
  exact ⟨⟨Text.not_mem_decimal (by decide) number, by decide⟩, htrimmed⟩

/-- The line below the one shown has no caret but at its end. -/
theorem exists_gutter_append_caret_eq (number indent before : Nat) :
    ∃ blank, gutter number ++ ' ' :: caret indent before = blank ++ ['^'] ∧ '\n' ∉ blank ∧ '^' ∉ blank ∧
      blank.length = (Text.decimal number).length + 3 + (before - indent) := by
  refine ⟨gutter number ++ ' ' :: List.replicate (before - indent) '-', ?_, ?_, ?_, ?_⟩
  · simp [caret]
  · simp [gutter]
  · simp [gutter]
  · simp only [gutter, List.length_append, List.length_cons, List.length_replicate, List.length_nil]
    omega

/-- Neither cut of a line reaches a character that is no white space: it is shown behind the number and as many
characters as there are before it, less those of the indentation. -/
theorem getElem?_shownLine {c : Char} (hc : Unicode.isWhiteSpace c = false) (number column : Nat)
    (before ahead : Text) :
    (shownLine ⟨number, before ++ c :: ahead, column⟩)[(Text.decimal number).length + 3 +
      (before.length - ((before ++ c :: ahead).takeWhile isIndent).length)]? = some c := by
  have hkept := isIndent_eq_false hc
  let shownBefore := Text.decimal number ++ " | ".toList ++ before.dropWhile isIndent
  have hlength : (Text.decimal number).length + 3 + (before.dropWhile isIndent).length = shownBefore.length := by
    rw [List.length_append, List.length_append]
    rfl
  rw [Text.takeWhile_append_cons_of_neg hkept, Text.length_sub_length_takeWhile, shownLine,
    Text.dropWhile_append_cons_of_neg hkept, trimEnd_append_cons hc, ← List.append_assoc, hlength,
    List.getElem?_append_right (Nat.le_refl _), Nat.sub_self]
  rfl

/-- The parts into which a line is cut to be shown. -/
theorem trims_shown (line : Text) :
    Trims line (line.takeWhile isIndent) (trimEnd (line.dropWhile isIndent))
      ((line.dropWhile isIndent).rtakeWhile Unicode.isWhiteSpace) := by
  have hrest : trimEnd (line.dropWhile isIndent) ++ (line.dropWhile isIndent).rtakeWhile Unicode.isWhiteSpace =
      line.dropWhile isIndent := List.rdropWhile_append_rtakeWhile
  refine ⟨?_, ?_, ?_, ?_, ?_⟩
  · rw [List.append_assoc, hrest, List.takeWhile_append_dropWhile]
  · intro c hc
    simpa [isIndent] using List.mem_takeWhile_imp hc
  · intro c hc
    have hstops := List.head?_dropWhile_not isIndent line
    rw [← hrest, Option.mem_def.mp hc] at hstops
    simpa [isIndent] using hstops
  · exact fun c hc => List.mem_rtakeWhile_imp hc
  · intro c hc
    have hstops := List.head?_dropWhile_not Unicode.isWhiteSpace (line.dropWhile isIndent).reverse
    rw [trimEnd, List.getLast?_reverse] at hc
    rw [Option.mem_def.mp hc] at hstops
    exact hstops

/-- The bar of a gutter is behind as many blanks as the number has digits, and one more. -/
theorem barAt_gutter (line : Nat) (rest : Text) : BarAt ((Text.decimal line).length + 1) (gutter line ++ rest) := by
  refine ⟨List.replicate ((Text.decimal line).length + 1) ' ', rest, ?_, ?_, ?_⟩
  · simp [gutter]
  · simp
  · simp

/-- The bar of the line shown is behind its number and a blank. -/
theorem barAt_shownLine (location : Text.Location) :
    BarAt ((Text.decimal location.line).length + 1) (shownLine location) := by
  refine ⟨Text.decimal location.line ++ [' '], ' ' :: trimEnd (location.text.dropWhile isIndent), ?_, ?_, ?_⟩
  · simp [shownLine]
  · have := Text.not_mem_decimal (c := '|') (by decide) location.line
    simp [this]
  · simp

section Layout

variable {error : LexError} {path source rendered : Text}

/-- An error is rendered when its offset, cut at the end of the source, is a place of the source. -/
theorem render?_eq_none_iff :
    render? error path source = none ↔
      ¬Text.IsPlace (min error.position.offset.toNat (Text.byteLength source)) source := by
  obtain ⟨above, below, hsurrounds⟩ := Text.exists_surrounds_lookUp source error.position.offset
  rw [render?, Option.map_eq_none_iff, ← hsurrounds.isPlace_column_iff, ← Text.isSome_cut?_iff,
    Option.not_isSome_iff_eq_none]

/-- A rendering ends with the line of the offset, which the column parts into characters before it and ahead. -/
theorem exists_laysOut_of_render?_eq_some (hrender : render? error path source = some rendered) :
    let location := Text.lookUp source error.position.offset
    ∃ before ahead, before ++ ahead = location.text ∧ Text.byteLength before = location.column ∧
      LaysOut rendered (shownLine location) ((Text.decimal location.line).length + 1)
        ((Text.decimal location.line).length + 3 + (before.length - (location.text.takeWhile isIndent).length)) := by
  intro location
  obtain ⟨⟨before, ahead⟩, hcut, rfl⟩ := Option.map_eq_some_iff.mp hrender
  obtain ⟨hline, hcolumn⟩ := (Text.cut?_eq_some_iff _ _ _ _).mp hcut
  obtain ⟨above, below, hsurrounds⟩ := Text.exists_surrounds_lookUp source error.position.offset
  obtain ⟨blank, hmarker, hnewline, hcaret, hlength⟩ :=
    exists_gutter_append_caret_eq location.line (location.text.takeWhile isIndent).length before.length
  refine ⟨before, ahead, hline, hcolumn, headline error.fault.name error.fault.tip ++ ['\n'] ++ ("-> ".toList ++ path),
    gutter location.line, blank, ?_, ?_, hcaret, hlength⟩
  · simp only [← hmarker, List.flatMap_cons, List.flatMap_nil, List.append_assoc, List.append_nil]
    rfl
  · simp only [List.forall_mem_cons, List.not_mem_nil, false_implies, implies_true, and_true]
    refine ⟨⟨?_, ?_⟩, ⟨?_, barAt_shownLine location⟩, ?_, ?_⟩
    · simp [gutter]
    · simpa using barAt_gutter location.line []
    · exact newline_not_mem_shownLine hsurrounds.newline_not_mem_or location.line location.column
    · simp [hnewline]
    · rw [← hmarker]
      exact barAt_gutter location.line _

/-- A diagnostic is refused exactly when its offset, cut at the end of the source, is inside a character. All
others end with three lines with their bars at one index. The second has the number of the line and the line
itself without its indentation and the white space at its end. The third has a caret behind as many characters
as the line has before the place, less those of the indentation; so a character at the offset that is no white
space is shown above the caret. -/
theorem render?_layout (error : LexError) (path source : Text) :
    let location := Text.lookUp source error.position.offset
    let width := (Text.decimal location.line).length
    (render? error path source = none ↔
      ¬Text.IsPlace (min error.position.offset.toNat (Text.byteLength source)) source) ∧
    ∀ rendered, render? error path source = some rendered →
      ∃ before ahead indent kept trailing shown caret,
        before ++ ahead = location.text ∧ Text.byteLength before = location.column ∧
        Trims location.text indent kept trailing ∧
        shown = Text.decimal location.line ++ " | ".toList ++ kept ∧
        caret = width + 3 + (before.length - indent.length) ∧
        LaysOut rendered shown (width + 1) caret ∧
        ∀ front c rest, front ++ c :: rest = source → Text.byteLength front = error.position.offset.toNat →
          Unicode.isWhiteSpace c = false → shown[caret]? = some c := by
  intro location width
  refine ⟨render?_eq_none_iff, fun rendered hrender => ?_⟩
  obtain ⟨before, ahead, hline, hcolumn, hlays⟩ := exists_laysOut_of_render?_eq_some hrender
  refine ⟨before, ahead, _, _, _, _, _, hline, hcolumn, trims_shown location.text, rfl, rfl, hlays, ?_⟩
  intro front c rest hsource hfront hc
  obtain ⟨above, below, hsurrounds⟩ := Text.exists_surrounds_lookUp source error.position.offset
  obtain ⟨more, rfl⟩ := hsurrounds.exists_ahead_eq_cons hline hcolumn hsource hfront
  have hshown := getElem?_shownLine hc location.line location.column before more
  rw [hline] at hshown
  exact hshown

example : render? ⟨.unexpectedCharacter 'é', .ofPlace [] 1⟩ "a.lk".toList "\n \té ".toList =
    some ("Error: UnexpectedCharacter (Unexpected character: 'é')\n-> a.lk\n  |\n" ++ "2 | é\n  | ^\n").toList := by
  decide +kernel

end Layout

end LkLexer.Diagnostic
