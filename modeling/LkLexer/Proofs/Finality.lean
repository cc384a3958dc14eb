import LkLexer.Proofs.Division

/-!
# Final and premature errors

A source can be refused because it breaks off too early: inside a comment, or behind the first half of a
lexeme of two characters. What it lacks then completes the lexeme and the source is accepted. Every other
error is final, as no rule looks further than one character behind the place of the fault. Main statement:
each error is of one of the two sorts, and which one its fault and its place tell
(`tokenize_append_of_tokenize_eq_error`).
-/

namespace LkLexer

/-- What makes a lexeme of a character that is none by itself. -/
def secondHalf? : Char → Option Text
  | '-' => some ['>']
  | '!' => some ['=']
  | '/' => some ['/']
  | _ => none

/-- What is missing at the end of a source that breaks off too early, given the text from the place of the fault on:
the closing of a comment, or the second half of a lexeme whose first half is the last character. -/
def Fault.completion? (fault : Fault) (back : Text) : Option Text :=
  match fault with
  | .unexpectedCharacter c => if back = [c] then secondHalf? c else none
  | .unterminatedBlockComment => some blockClosing

/-- A character can only be completed where nothing follows it. -/
theorem Fault.completion?_unexpectedCharacter (c : Char) (after : Text) :
    (unexpectedCharacter c).completion? (c :: after) = if after = [] then secondHalf? c else none := by
  simp only [completion?, List.cons_inj_right]

/-- A first half and what makes a lexeme of it are one. -/
theorem exists_valid_cons_of_secondHalf?_eq_some {c : Char} {missing : Text}
    (hmissing : secondHalf? c = some missing) : ∃ kind, Lexeme.Valid ⟨kind, c :: missing⟩ := by
  unfold secondHalf? at hmissing
  split at hmissing
  · obtain rfl := Option.some.inj hmissing
    exact ⟨.arrow, rfl⟩
  · obtain rfl := Option.some.inj hmissing
    exact ⟨.notEquals, rfl⟩
  · obtain rfl := Option.some.inj hmissing
    exact ⟨.comment, [], rfl, fun c hc => absurd hc List.not_mem_nil⟩
  · cases hmissing

/-- A character that begins no lexeme begins none when more follows, unless it is a first half at the end. -/
theorem StartsNothing.append {c : Char} {after : Text} (hnothing : StartsNothing c after)
    (hdone : after ≠ [] ∨ secondHalf? c = none) (more : Text) : StartsNothing c (after ++ more) := by
  obtain ⟨hword, hspace, hfixed, hslash, hdash, hbang⟩ := hnothing
  cases after with
  | nil =>
    have hnone : secondHalf? c = none := hdone.resolve_left (absurd rfl)
    have hne (first : Char) (hfirst : (secondHalf? first).isSome = true) : c ≠ first := by
      rintro rfl
      rw [hnone] at hfirst
      cases hfirst
    exact ⟨hword, hspace, hfixed, fun h => absurd h (hne '/' rfl), fun h => absurd h (hne '-' rfl),
      fun h => absurd h (hne '!' rfl)⟩
  | cons d after => exact ⟨hword, hspace, hfixed, hslash, hdash, hbang⟩

/-- A text behind lexemes is accepted with them once it is completed to a lexeme. -/
theorem exists_tokenize_eq_ok_of_valid {lexemes : List Lexeme} {rest missing : Text} {kind : Kind}
    (hapart : Lexeme.SetApart lexemes rest) (hrest : rest ≠ []) (hvalid : Lexeme.Valid ⟨kind, rest ++ missing⟩)
    (label? : Option Text) :
    ∃ tokens, tokenize (Lexeme.joined lexemes ++ rest ++ missing) label? = .ok tokens := by
  have harranged : Lexeme.Arranged (lexemes ++ [⟨kind, rest ++ missing⟩]) := by
    rw [← Lexeme.setApart_nil_iff, Lexeme.setApart_append_iff]
    refine ⟨?_, hvalid, Kind.stopsBefore_nil kind, trivial⟩
    simpa using hapart.append hrest missing
  have hjoined : Lexeme.joined (lexemes ++ [⟨kind, rest ++ missing⟩]) =
      Lexeme.joined lexemes ++ rest ++ missing := by
    simp
  exact ⟨_, hjoined ▸ tokenize_joined harranged⟩

/-- A character that begins no lexeme is refused behind lexemes whatever more follows, unless it is a first
half at the end. -/
theorem tokenize_append_of_startsNothing {lexemes : List Lexeme} {c : Char} {after : Text}
    (hapart : Lexeme.SetApart lexemes (c :: after)) (hnothing : StartsNothing c after)
    (hdone : after ≠ [] ∨ secondHalf? c = none) (label? : Option Text) (more : Text) :
    tokenize (Lexeme.joined lexemes ++ c :: after ++ more) label? =
      .error ⟨.unexpectedCharacter c,
        .ofPlace (label?.getD defaultLabel) (Text.byteLength (Lexeme.joined lexemes))⟩ := by
  have hblocks : (Fault.unexpectedCharacter c).Blocks (c :: after ++ more) :=
    ⟨after ++ more, rfl, hnothing.append hdone more⟩
  rw [List.append_assoc]
  exact tokenize_joined_append (hapart.append (List.cons_ne_nil c after) more) hblocks

/-- A source that breaks off too early is accepted when what it lacks is added, and every other source that is
refused is refused with the same error whatever is added to it. Which of both it is, the fault and the text from its
place on tell. -/
theorem tokenize_append_of_tokenize_eq_error {source : Text} {label? : Option Text} {error : LexError}
    (herror : tokenize source label? = .error error) :
    ∃ front back, front ++ back = source ∧
      error.position = .ofPlace (label?.getD defaultLabel) (Text.byteLength front) ∧
      (Text.byteLength source < UInt32.size → error.position.offset.toNat = Text.byteLength front) ∧
      (∀ c, error.fault = .unexpectedCharacter c → back.head? = some c) ∧
      match error.fault.completion? back with
      | some missing => ∃ tokens, tokenize (source ++ missing) label? = .ok tokens
      | none => ∀ more, tokenize (source ++ more) label? = .error error := by
  obtain ⟨lexemes, rest, fault, rfl, hapart, hblocks, rfl⟩ := exists_blocks_of_tokenize_eq_error herror
  have hoffset (hlength : Text.byteLength (Lexeme.joined lexemes ++ rest) < UInt32.size) :=
    Position.toNat_offset_ofPlace_of_isPlace (label?.getD defaultLabel) hlength
      (fault.isPlace_reportedAt (Lexeme.joined lexemes) rest)
  cases fault with
  | unterminatedBlockComment =>
    have hend := (Text.byteLength_append (Lexeme.joined lexemes) rest).symm
    refine ⟨Lexeme.joined lexemes ++ rest, [], List.append_nil _, congrArg (Position.ofPlace _) hend,
      fun hlength => (hoffset hlength).trans hend, nofun, ?_⟩
    obtain ⟨body, rfl, hbody⟩ := hblocks
    have hvalid : Lexeme.Valid ⟨.blockComment, blockOpening ++ body ++ blockClosing⟩ := ⟨body, rfl, hbody⟩
    exact exists_tokenize_eq_ok_of_valid hapart (by simp [blockOpening]) hvalid label?
  | unexpectedCharacter c =>
    obtain ⟨after, rfl, hnothing⟩ := hblocks
    have hfinal (hdone : after ≠ [] ∨ secondHalf? c = none) :=
      tokenize_append_of_startsNothing hapart hnothing hdone label?
    refine ⟨Lexeme.joined lexemes, c :: after, rfl, rfl, hoffset, fun d hd => ?_, ?_⟩
    · rw [Fault.unexpectedCharacter.inj hd]
      rfl
    · rw [Fault.completion?_unexpectedCharacter]
      split_ifs with hafter
      · subst hafter
        cases hmissing : secondHalf? c with
        | none => exact hfinal (Or.inr hmissing)
        | some missing =>
          obtain ⟨kind, hvalid⟩ := exists_valid_cons_of_secondHalf?_eq_some hmissing
          exact exists_tokenize_eq_ok_of_valid hapart (List.cons_ne_nil c []) hvalid label?
      · exact hfinal (Or.inl hafter)

/-- An open comment can be closed, also behind a star, but nothing mends a dash that stands before a blank. -/
theorem tokenize_append_open_comment_lone_dash :
    let openComment : LexError := ⟨.unterminatedBlockComment, .ofPlace defaultLabel 5⟩
    let loneDash : LexError := ⟨.unexpectedCharacter '-', .ofPlace defaultLabel 0⟩
    (tokenize "/*é*".toList none = .error openComment ∧
      ∃ tokens, tokenize ("/*é*".toList ++ blockClosing) none = .ok tokens) ∧
    (tokenize "- -".toList none = .error loneDash ∧
      ∀ more, tokenize ("- -".toList ++ more) none = .error loneDash) := by
  intro openComment loneDash
  have hopen : tokenize "/*é*".toList none = .error openComment := by decide +kernel
  have hdash : tokenize "- -".toList none = .error loneDash := by decide +kernel
  refine ⟨⟨hopen, ?_⟩, hdash, ?_⟩
  · obtain ⟨front, back, -, -, -, -, hcompleted⟩ := tokenize_append_of_tokenize_eq_error hopen
    exact hcompleted
  · obtain ⟨front, back, hsource, -, hoffset, -, hrefused⟩ := tokenize_append_of_tokenize_eq_error hdash
    -- The text from the dash on is the whole source.
    have hfront : Text.byteLength front = 0 := (hoffset (by decide +kernel)).symm
    obtain rfl := (Text.byteLength_eq_zero_iff front).mp hfront
    obtain rfl : back = "- -".toList := hsource
    exact hrefused

end LkLexer
