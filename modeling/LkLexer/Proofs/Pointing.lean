import LkLexer.Proofs.Division
import LkLexer.Proofs.Rendering

/-!
# What a diagnostic points at

Places are counted in bytes, columns of a diagnostic in characters, and the line that is shown has lost its
indentation and the white space at its end. The caret stands below the character at the place all the same,
as it moves with the indentation and as a character that is no white space is kept by both cuts. Main
statement: the diagnostic of a source of less than 2 ^ 32 bytes that is refused shows the line of the fault with its
number and a caret below the fault (`exists_render?_of_tokenize_eq_error`).
-/

namespace LkLexer

namespace Diagnostic

/-- A rendering ends with two lines: one that begins with a number, and below it a caret at an index. -/
structure PointsAt (rendered shown : Text) (line index : Nat) : Prop where
  numbered : Text.decimal line ++ " | ".toList <+: shown
  newline_not_mem : '\n' ∉ shown
  last_lines : ∃ above blank, rendered = above ++ ['\n'] ++ shown ++ ['\n'] ++ blank ++ ['^', '\n'] ∧
    '\n' ∉ blank ∧ '^' ∉ blank ∧ blank.length = index

/-- A rendering points at the index of its caret. -/
theorem LaysOut.pointsAt {rendered : Text} {location : Text.Location} {bar caret : Nat}
    (hlays : LaysOut rendered (shownLine location) bar caret) :
    PointsAt rendered (shownLine location) location.line caret := by
  obtain ⟨above, empty, blank, hrendered, hlines, hcaret, hlength⟩ := hlays
  simp only [List.forall_mem_cons] at hlines
  obtain ⟨-, ⟨hshown, -⟩, ⟨hmarker, -⟩, -⟩ := hlines
  refine ⟨?_, hshown, above ++ ['\n'] ++ empty, blank, ?_, ?_, hcaret, hlength⟩
  · exact List.prefix_append _ _
  · rw [hrendered]
    simp
  · exact fun hmem => hmarker (List.mem_append_left _ hmem)

/-- A place of a source is shown on its line, with the caret behind as many characters as are shown before it. -/
theorem exists_render?_pointsAt (error : LexError) (path : Text) {before line : Text} (after : Text) {number : Nat}
    (hoffset : error.position.offset.toNat = Text.byteLength before) (hnumber : number = 1 + before.count '\n')
    (hline : line = Text.lastLine before ++ Text.firstLine after) :
    ∃ rendered, render? error path (before ++ after) = some rendered ∧
      PointsAt rendered (shownLine ⟨number, line, Text.byteLength (Text.lastLine before)⟩) number
        ((Text.decimal number).length + 3 + ((Text.lastLine before).length - (line.takeWhile isIndent).length)) := by
  have hlocate : Text.lookUp (before ++ after) error.position.offset =
      ⟨number, line, Text.byteLength (Text.lastLine before)⟩ := by
    rw [Text.lookUp, hoffset, Text.locate_append, hnumber, hline]
  have hplace :
      Text.IsPlace (min error.position.offset.toNat (Text.byteLength (before ++ after))) (before ++ after) := by
    rw [hoffset, Text.byteLength_append, Nat.min_eq_left (Nat.le_add_right _ _)]
    exact ⟨before, after, rfl, rfl⟩
  have hsome : (render? error path (before ++ after)).isSome = true := by
    rw [Option.isSome_iff_ne_none, Ne, render?_eq_none_iff]
    exact not_not_intro hplace
  obtain ⟨rendered, hrender⟩ := Option.isSome_iff_exists.mp hsome
  obtain ⟨passed, ahead, hparts, hpassed, hlays⟩ := exists_laysOut_of_render?_eq_some hrender
  rw [hlocate] at hparts hpassed hlays
  -- The line is parted where the last line of the text before the place ends.
  obtain ⟨rfl, -⟩ := Text.append_inj_of_byteLength (hparts.trans hline) hpassed
  exact ⟨rendered, hrender, hlays.pointsAt⟩

/-- A character that is no white space is shown above the caret. -/
theorem exists_render?_getElem? (error : LexError) (path : Text) {before : Text} {c : Char} (after : Text)
    (hoffset : error.position.offset.toNat = Text.byteLength before) (hc : Unicode.isWhiteSpace c = false) :
    ∃ rendered shown index, render? error path (before ++ c :: after) = some rendered ∧
      PointsAt rendered shown (1 + before.count '\n') index ∧ shown[index]? = some c := by
  have hinline : Text.isInline c = true := decide_eq_true ((CharClass.isWhiteSpace_eq_false_iff c).mp hc).1
  obtain ⟨rendered, hrender, hpoints⟩ := exists_render?_pointsAt error path (c :: after) hoffset rfl rfl
  rw [Text.firstLine_cons hinline] at hpoints
  exact ⟨rendered, _, _, hrender, hpoints, getElem?_shownLine hc _ _ (Text.lastLine before) _⟩

/-- At the end of a source the caret stands behind its last line, as far as that is no indentation. -/
theorem exists_render?_pointsAt_end (error : LexError) (path : Text) {source : Text}
    (hoffset : error.position.offset.toNat = Text.byteLength source) :
    ∃ rendered shown, render? error path source = some rendered ∧
      PointsAt rendered shown (1 + source.count '\n')
        ((Text.decimal (1 + source.count '\n')).length + 3 +
          ((Text.lastLine source).dropWhile isIndent).length) := by
  have hline : Text.lastLine source = Text.lastLine source ++ Text.firstLine [] := (List.append_nil _).symm
  obtain ⟨rendered, hrender, hpoints⟩ := exists_render?_pointsAt error path [] hoffset rfl hline
  rw [List.append_nil] at hrender
  rw [Text.length_sub_length_takeWhile] at hpoints
  exact ⟨rendered, _, hrender, hpoints⟩

end Diagnostic

/-- The diagnostic of a source that is refused is rendered and ends with the line of the fault, numbered by the
newlines before it, and a caret: below the character that begins no lexeme, or behind the last line of the
source, which is shown from behind its indentation on. -/
theorem exists_render?_of_tokenize_eq_error {source : Text} {label? : Option Text} {error : LexError}
    (hlength : Text.byteLength source < UInt32.size) (herror : tokenize source label? = .error error) (path : Text) :
    ∃ before after rendered shown index,
      before ++ after = source ∧ Text.byteLength before = error.position.offset.toNat ∧
      Diagnostic.render? error path source = some rendered ∧
      Diagnostic.PointsAt rendered shown (1 + before.count '\n') index ∧
      match error.fault with
      | .unexpectedCharacter c => shown[index]? = some c
      | .unterminatedBlockComment =>
        index = (Text.decimal (1 + before.count '\n')).length + 3 +
          ((Text.lastLine source).dropWhile Diagnostic.isIndent).length := by
  obtain ⟨lexemes, rest, fault, rfl, -, hblocks, rfl⟩ := exists_blocks_of_tokenize_eq_error herror
  -- Below 2 ^ 32 bytes the offset of the error is the place at which the fault is reported.
  have hoffset := Position.toNat_offset_ofPlace_of_isPlace (label?.getD defaultLabel) hlength
    (fault.isPlace_reportedAt (Lexeme.joined lexemes) rest)
  cases fault with
  | unexpectedCharacter c =>
    obtain ⟨after, rfl, -, hspace, -⟩ := hblocks
    obtain ⟨rendered, shown, index, hrender, hpoints, hshown⟩ :=
      Diagnostic.exists_render?_getElem? ⟨.unexpectedCharacter c, .ofPlace _ _⟩ path after hoffset hspace
    exact ⟨_, c :: after, rendered, shown, index, rfl, hoffset.symm, hrender, hpoints, hshown⟩
  | unterminatedBlockComment =>
    have hend := hoffset.trans (Text.byteLength_append (Lexeme.joined lexemes) rest).symm
    obtain ⟨rendered, shown, hrender, hpoints⟩ :=
      Diagnostic.exists_render?_pointsAt_end ⟨.unterminatedBlockComment, .ofPlace _ _⟩ path hend
    exact ⟨_, [], rendered, shown, _, List.append_nil _, hend.symm, hrender, hpoints, rfl⟩

/-- Behind an indentation, a comment with a character of two bytes and a blank, the caret stands below the fault. -/
theorem exists_render?_at_sign :
    let source := "a\n\t/*é*/ @ \r\n".toList
    let error : LexError := ⟨.unexpectedCharacter '@', .ofPlace defaultLabel 10⟩
    Text.byteLength source < UInt32.size ∧ tokenize source none = .error error ∧
      ∃ before after rendered shown index,
        before ++ after = source ∧ Text.byteLength before = 10 ∧
        Diagnostic.render? error "main.lk".toList source = some rendered ∧
        Diagnostic.PointsAt rendered shown (1 + before.count '\n') index ∧ shown[index]? = some '@' := by
  intro source error
  have hlength : Text.byteLength source < UInt32.size := by decide +kernel
  have herror : tokenize source none = .error error := by decide +kernel
  exact ⟨hlength, herror, exists_render?_of_tokenize_eq_error hlength herror "main.lk".toList⟩

example : Diagnostic.render? ⟨.unexpectedCharacter '@', .ofPlace defaultLabel 10⟩ "main.lk".toList
    "a = b\n  c @ d\n".toList =
    some ("Error: UnexpectedCharacter (Unexpected character: '@')\n-> main.lk\n  |\n" ++
      "2 | c @ d\n  | --^\n").toList := by
  decide +kernel

end LkLexer
