import LkLexer.Proofs.Division

/-!
# Only the classes of characters matter

The rules tell some characters apart one by one, the marks of brackets, operators and comments and the newline;
of all others they only see whether they belong to words, to blanks or to neither. So a map of characters that
leaves the marks as they are and keeps every other character in its class maps the lexemes of a source one by one,
or the fault that ends them, however many bytes the characters take before and after. Main statement: the result
of the image of a source, read off that of the source (`tokenize_map`).
-/

namespace LkLexer

namespace CharClass

/-- The characters that the rules tell apart from all others. -/
def marks : Text := ['{', '}', '(', ')', ':', '/', '*', '-', '>', '!', '=', '&', '|', '\n']

/-- A character is no mark and of neither class. -/
def IsForeign (c : Char) : Prop :=
  c ∉ marks ∧ ∀ members : CharClass, members.contains c = false

/-- No mark belongs to a class. -/
theorem contains_eq_false_of_mem_marks {c : Char} (hmark : c ∈ marks) (members : CharClass) :
    members.contains c = false := by
  have hmarks : marks.all (fun mark => !members.contains mark) = true := by
    cases members <;> decide
  exact (Bool.not_eq_true' _).mp (List.all_eq_true.mp hmarks c hmark)

/-- A character of one class does not belong to another. -/
theorem contains_eq_false_of_ne {members other : CharClass} {c : Char} (hne : members ≠ other)
    (hother : other.contains c = true) : members.contains c = false := by
  cases other with
  | word =>
    cases members with
    | word => exact absurd rfl hne
    | blank => exact blank_contains_of_word_contains hother
  | blank =>
    cases members with
    | word =>
      refine Bool.eq_false_iff.mpr fun hword => ?_
      rw [blank_contains_of_word_contains hword] at hother
      contradiction
    | blank => exact absurd rfl hne

end CharClass

open CharClass (marks IsForeign)

/-- A map of characters leaves the marks as they are and keeps all others in their class, or in none. -/
structure KeepsClasses (image : Char → Char) : Prop where
  mark : ∀ c ∈ marks, image c = c
  member : ∀ (members : CharClass) (c : Char), members.contains c = true → members.contains (image c) = true
  foreign : ∀ c, IsForeign c → IsForeign (image c)

/-- A lexeme with its characters mapped. -/
def Lexeme.map (image : Char → Char) (lexeme : Lexeme) : Lexeme :=
  ⟨lexeme.kind, lexeme.value.map image⟩

/-- The text of mapped lexemes is the image of their text. -/
theorem Lexeme.joined_map (image : Char → Char) (lexemes : List Lexeme) :
    joined (lexemes.map (map image)) = (joined lexemes).map image := by
  rw [joined, joined, List.map_flatMap, List.flatMap_map]
  rfl

/-- A fault with its character mapped, if it has one. -/
def Fault.map (image : Char → Char) : Fault → Fault
  | unexpectedCharacter c => unexpectedCharacter (image c)
  | unterminatedBlockComment => unterminatedBlockComment

namespace KeepsClasses

variable {image : Char → Char}

/-- A character belongs to a class exactly when its image does. -/
theorem contains_image (hkeeps : KeepsClasses image) (members : CharClass) (c : Char) :
    members.contains (image c) = members.contains c := by
  cases hc : members.contains c with
  | true => exact hkeeps.member members c hc
  | false =>
    by_cases hmark : c ∈ marks
    · rw [hkeeps.mark c hmark, hc]
    by_cases hclass : ∃ other : CharClass, other.contains c = true
    · obtain ⟨other, hother⟩ := hclass
      have hne : members ≠ other := by
        rintro rfl
        rw [hc] at hother
        contradiction
      exact CharClass.contains_eq_false_of_ne hne (hkeeps.member other c hother)
    · simp only [not_exists, Bool.not_eq_true] at hclass
      exact (hkeeps.foreign c ⟨hmark, hclass⟩).2 members

/-- Only a mark itself is mapped to it. -/
theorem image_eq_iff (hkeeps : KeepsClasses image) {mark : Char} (hmark : mark ∈ marks) (c : Char) :
    image c = mark ↔ c = mark := by
  refine ⟨fun himage => ?_, fun hc => ?_⟩
  · by_cases hc : c ∈ marks
    · rw [← himage, hkeeps.mark c hc]
    · -- The image is in no class, so neither is the character, and foreign characters stay foreign.
      have hclass (members : CharClass) : members.contains c = false := by
        rw [← hkeeps.contains_image, himage]
        exact CharClass.contains_eq_false_of_mem_marks hmark members
      exact absurd (himage ▸ hmark) (hkeeps.foreign c ⟨hc, hclass⟩).1
  · rw [hc, hkeeps.mark mark hmark]

/-- An image is one of some marks only if the character is. -/
theorem image_mem_iff (hkeeps : KeepsClasses image) {chosen : Text} (hmarks : chosen ⊆ marks) (c : Char) :
    image c ∈ chosen ↔ c ∈ chosen := by
  refine ⟨fun himage => ?_, fun hc => ?_⟩
  · rwa [(hkeeps.image_eq_iff (hmarks himage) c).mp rfl]
  · rwa [hkeeps.mark c (hmarks hc)]

/-- A character ends its line exactly when its image does. -/
theorem isInline_image (hkeeps : KeepsClasses image) (c : Char) : Text.isInline (image c) = Text.isInline c := by
  rw [Text.isInline, Text.isInline, decide_eq_decide, Ne, Ne, hkeeps.image_eq_iff (by decide)]

/-- Only a text of marks itself is mapped to it. -/
theorem map_eq_iff (hkeeps : KeepsClasses image) {literal : Text} (hmarks : literal ⊆ marks) (text : Text) :
    text.map image = literal ↔ text = literal := by
  induction literal generalizing text with
  | nil => exact List.map_eq_nil_iff
  | cons mark literal ih =>
    obtain ⟨hmark, hliteral⟩ := List.cons_subset.mp hmarks
    cases text with
    | nil => simp
    | cons c text => rw [List.map_cons, List.cons.injEq, List.cons.injEq, hkeeps.image_eq_iff hmark, ih hliteral]

/-- A text of marks is mapped to itself. -/
theorem map_marks (hkeeps : KeepsClasses image) {literal : Text} (hmarks : literal ⊆ marks) :
    literal.map image = literal :=
  (hkeeps.map_eq_iff hmarks literal).mpr rfl

/-- A text of marks is found in an image only where it is found in the text. -/
theorem infix_map (hkeeps : KeepsClasses image) {literal text : Text} (hmarks : literal ⊆ marks)
    (himage : literal <:+: text.map image) : literal <:+: text := by
  obtain ⟨before, after, hsplit⟩ := himage
  obtain ⟨front, back, rfl, hfront, -⟩ := List.map_eq_append_iff.mp hsplit.symm
  obtain ⟨before', found, rfl, -, hfound⟩ := List.map_eq_append_iff.mp hfront
  rw [hkeeps.map_eq_iff hmarks] at hfound
  subst hfound
  exact ⟨before', back, rfl⟩

/-- A mark is the first character of an image only where it is that of the text. -/
theorem head?_map_eq_some_iff (hkeeps : KeepsClasses image) {mark : Char} (hmark : mark ∈ marks) (text : Text) :
    (text.map image).head? = some mark ↔ text.head? = some mark := by
  cases text with
  | nil => rfl
  | cons c text => simp [hkeeps.image_eq_iff hmark]

/-- A character goes on a kind of lexeme exactly when its image does. -/
theorem continuesWith_image (hkeeps : KeepsClasses image) (kind : Kind) (c : Char) :
    kind.continuesWith (image c) = kind.continuesWith c := by
  cases kind with
  | identifier => exact hkeeps.contains_image .word c
  | whitespace => exact hkeeps.contains_image .blank c
  | comment => exact hkeeps.isInline_image c
  | _ => rfl

/-- A lexeme ends before the image of a text if it ends before the text. -/
theorem stopsBefore_map (hkeeps : KeepsClasses image) {kind : Kind} {after : Text} (hstops : kind.StopsBefore after) :
    kind.StopsBefore (after.map image) := by
  cases after with
  | nil => exact kind.stopsBefore_nil
  | cons c after =>
    rw [Kind.stopsBefore_cons] at hstops
    rw [List.map_cons, Kind.stopsBefore_cons, hkeeps.continuesWith_image, hstops]

/-- All characters of the image of a text are of a class when those of the text are. -/
theorem forall_contains_map (hkeeps : KeepsClasses image) {members : CharClass} {text : Text}
    (hmembers : ∀ c ∈ text, members.contains c = true) : ∀ c ∈ text.map image, members.contains c = true :=
  List.forall_mem_map.mpr fun c hc => hkeeps.member members c (hmembers c hc)

/-- The image of a lexeme is written as its kind is. -/
theorem valid_map (hkeeps : KeepsClasses image) {lexeme : Lexeme} (hvalid : lexeme.Valid) :
    (lexeme.map image).Valid := by
  obtain ⟨kind, value⟩ := lexeme
  cases kind with
  | identifier | whitespace =>
    exact ⟨mt List.map_eq_nil_iff.mp hvalid.1, hkeeps.forall_contains_map hvalid.2⟩
  | comment =>
    obtain ⟨body, hvalue, hinline⟩ := hvalid
    obtain rfl : value = lineOpening ++ body := hvalue
    refine ⟨body.map image, ?_, List.forall_mem_map.mpr fun c hc => ?_⟩
    · change (lineOpening ++ body).map image = _
      rw [List.map_append, hkeeps.map_marks (by decide)]
    · rw [hkeeps.isInline_image, hinline c hc]
  | blockComment =>
    obtain ⟨body, hvalue, hbody⟩ := hvalid
    obtain rfl : value = blockOpening ++ body ++ blockClosing := hvalue
    have hopening : blockOpening.map image = blockOpening := hkeeps.map_marks (by decide)
    have hclosing : blockClosing.map image = blockClosing := hkeeps.map_marks (by decide)
    refine ⟨body.map image, ?_, fun hinfix => hbody (hkeeps.infix_map (by decide) hinfix)⟩
    change (blockOpening ++ body ++ blockClosing).map image = _
    rw [List.map_append, List.map_append, hopening, hclosing]
  | _ =>
    obtain rfl : value = _ := hvalid
    exact hkeeps.map_marks (by decide)

/-- The images of lexemes stand apart when these do. -/
theorem setApart_map (hkeeps : KeepsClasses image) {lexemes : List Lexeme} {rest : Text}
    (hapart : Lexeme.SetApart lexemes rest) :
    Lexeme.SetApart (lexemes.map (Lexeme.map image)) (rest.map image) := by
  induction lexemes with
  | nil => trivial
  | cons lexeme later ih =>
    obtain ⟨hvalid, hstops, hlater⟩ := hapart
    refine ⟨hkeeps.valid_map hvalid, ?_, ih hlater⟩
    rw [Lexeme.joined_map, ← List.map_append]
    exact hkeeps.stopsBefore_map hstops

/-- The image of a character that begins no lexeme begins none. -/
theorem startsNothing_map (hkeeps : KeepsClasses image) {c : Char} {after : Text} (hnothing : StartsNothing c after) :
    StartsNothing (image c) (after.map image) := by
  obtain ⟨hword, hspace, hsingle, hslash, hdash, hbang⟩ := hnothing
  rw [CharClass.isWhiteSpace_eq_false_iff] at hspace
  refine ⟨?_, ?_, ?_, ?_, ?_, ?_⟩
  · rw [hkeeps.contains_image, hword]
  · rw [CharClass.isWhiteSpace_eq_false_iff, Ne, hkeeps.image_eq_iff (by decide), hkeeps.contains_image]
    exact hspace
  · rw [hkeeps.image_mem_iff (by decide)]
    exact hsingle
  · rw [hkeeps.image_eq_iff (by decide), Ne, Ne, hkeeps.head?_map_eq_some_iff (by decide),
      hkeeps.head?_map_eq_some_iff (by decide)]
    exact hslash
  · rw [hkeeps.image_eq_iff (by decide), Ne, hkeeps.head?_map_eq_some_iff (by decide)]
    exact hdash
  · rw [hkeeps.image_eq_iff (by decide), Ne, hkeeps.head?_map_eq_some_iff (by decide)]
    exact hbang

/-- The image of a fault ends the image of what it ends. -/
theorem blocks_map (hkeeps : KeepsClasses image) {fault : Fault} {rest : Text} (hblocks : fault.Blocks rest) :
    (fault.map image).Blocks (rest.map image) := by
  cases fault with
  | unexpectedCharacter c =>
    obtain ⟨after, rfl, hnothing⟩ := hblocks
    exact ⟨after.map image, rfl, hkeeps.startsNothing_map hnothing⟩
  | unterminatedBlockComment =>
    obtain ⟨body, rfl, hbody⟩ := hblocks
    have hopening : blockOpening.map image = blockOpening := hkeeps.map_marks (by decide)
    refine ⟨body.map image, ?_, fun hinfix => hbody (hkeeps.infix_map (by decide) hinfix)⟩
    rw [List.map_append, hopening]

end KeepsClasses

/-- A fault is reported behind a front of the source, at the character that it is about if it is about one. The
image of the front is what the image of the fault is reported behind. -/
theorem Fault.Blocks.exists_reportedAt {fault : Fault} {rest : Text} (hblocks : fault.Blocks rest) (before : Text)
    (image : Char → Char) :
    ∃ front back, front ++ back = before ++ rest ∧
      Text.byteLength front = fault.reportedAt (Text.byteLength before) rest ∧
      Text.byteLength (front.map image) =
        (fault.map image).reportedAt (Text.byteLength (before.map image)) (rest.map image) ∧
      ∀ c, fault = .unexpectedCharacter c → back.head? = some c := by
  cases fault with
  | unexpectedCharacter c =>
    obtain ⟨after, rfl, -⟩ := hblocks
    refine ⟨before, c :: after, rfl, rfl, rfl, fun d hd => ?_⟩
    rw [Fault.unexpectedCharacter.inj hd]
    rfl
  | unterminatedBlockComment =>
    refine ⟨before ++ rest, [], List.append_nil _, Text.byteLength_append _ _, ?_, nofun⟩
    rw [List.map_append]
    exact Text.byteLength_append _ _

/-- A map that keeps classes maps the result of a source. If it is accepted, its image has the same kinds in the
same order, with their characters mapped and in the places that the bytes of these leave. If it is refused, the
image is refused for the same fault, with its character mapped, at the bytes that the mapped text before it takes.
Below 2 ^ 32 bytes all offsets are these numbers of bytes. -/
theorem tokenize_map {image : Char → Char} (hkeeps : KeepsClasses image) (source : Text) (label? : Option Text) :
    let label := label?.getD defaultLabel
    (∀ tokens, tokenize source label? = .ok tokens →
      tokenize (source.map image) label? =
        .ok (Token.layOut label 0 ((Token.lexemes tokens).map (Lexeme.map image)))) ∧
    (∀ error, tokenize source label? = .error error →
      ∃ front back, front ++ back = source ∧ error.position = .ofPlace label (Text.byteLength front) ∧
        (∀ c, error.fault = .unexpectedCharacter c → back.head? = some c) ∧
        tokenize (source.map image) label? =
          .error ⟨error.fault.map image, .ofPlace label (Text.byteLength (front.map image))⟩) ∧
    ∀ text : Text, Text.byteLength text < UInt32.size → ∀ front back, front ++ back = text →
      (Position.ofPlace label (Text.byteLength front)).offset.toNat = Text.byteLength front := by
  refine ⟨fun tokens hok => ?_, fun error herror => ?_, fun text hlength front back htext => ?_⟩
  · obtain ⟨lexemes, harranged, rfl, rfl⟩ := tokenize_eq_ok_iff.mp hok
    have hapart := hkeeps.setApart_map ((Lexeme.setApart_nil_iff lexemes).mpr harranged)
    rw [← Lexeme.joined_map, Token.lexemes_layOut]
    exact tokenize_joined ((Lexeme.setApart_nil_iff _).mp hapart)
  · obtain ⟨lexemes, rest, fault, rfl, hapart, hblocks, rfl⟩ := exists_blocks_of_tokenize_eq_error herror
    obtain ⟨front, back, hsource, hplace, himage, hcharacter⟩ :=
      hblocks.exists_reportedAt (Lexeme.joined lexemes) image
    refine ⟨front, back, hsource, congrArg (Position.ofPlace _) hplace.symm, hcharacter, ?_⟩
    rw [List.map_append, ← Lexeme.joined_map,
      tokenize_joined_append (hkeeps.setApart_map hapart) (hkeeps.blocks_map hblocks), himage, Lexeme.joined_map]
  · exact Position.toNat_offset_ofPlace_of_isPlace _ hlength ⟨front, back, htext, rfl⟩

/-- One character for each class, and one for all that are in none. Marks stand for themselves. -/
def CharClass.representative (c : Char) : Char :=
  if c ∈ marks then c
  else if word.contains c then 'w'
  else if blank.contains c then '\u00a0'
  else '日'

/-- Characters are of the class that their representative is of. -/
theorem keepsClasses_representative : KeepsClasses CharClass.representative where
  mark := fun c hc => if_pos hc
  member := by
    intro members c hc
    have hmark : c ∉ marks := fun hmark => by
      rw [CharClass.contains_eq_false_of_mem_marks hmark members] at hc
      contradiction
    rw [CharClass.representative, if_neg hmark]
    cases members with
    | word =>
      rw [if_pos hc]
      decide
    | blank =>
      have hword : CharClass.word.contains c = false := CharClass.contains_eq_false_of_ne (by decide) hc
      rw [hword, if_neg Bool.false_ne_true, if_pos hc]
      decide
  foreign := by
    intro c hforeign
    rw [CharClass.representative, if_neg hforeign.1, hforeign.2, hforeign.2, if_neg Bool.false_ne_true,
      if_neg Bool.false_ne_true]
    refine ⟨by decide, fun members => ?_⟩
    cases members <;> decide

/-- Representatives take other numbers of bytes, in the tokens of one source and before the fault of another. -/
theorem tokenize_map_representative :
    let accepted := "b /*é*/".toList
    let tokens : List Token :=
      [⟨⟨.identifier, "b".toList⟩, .between defaultLabel 0 1⟩, ⟨⟨.whitespace, " ".toList⟩, .between defaultLabel 1 2⟩,
       ⟨⟨.blockComment, "/*é*/".toList⟩, .between defaultLabel 2 8⟩]
    let images : List Token :=
      [⟨⟨.identifier, "w".toList⟩, .between defaultLabel 0 1⟩,
       ⟨⟨.whitespace, "\u00a0".toList⟩, .between defaultLabel 1 3⟩,
       ⟨⟨.blockComment, "/*日*/".toList⟩, .between defaultLabel 3 10⟩]
    let refused := "b @".toList
    KeepsClasses CharClass.representative ∧
      tokenize accepted none = .ok tokens ∧
      tokenize refused none = .error ⟨.unexpectedCharacter '@', .ofPlace defaultLabel 2⟩ ∧
      tokenize (accepted.map CharClass.representative) none = .ok images ∧
      tokenize (refused.map CharClass.representative) none =
        .error ⟨.unexpectedCharacter '日', .ofPlace defaultLabel 3⟩ := by
  intro accepted tokens images refused
  have hok : tokenize accepted none = .ok tokens := by decide +kernel
  have herror : tokenize refused none = .error ⟨.unexpectedCharacter '@', .ofPlace defaultLabel 2⟩ := by decide +kernel
  obtain ⟨hmapsTokens, -⟩ := tokenize_map keepsClasses_representative accepted none
  obtain ⟨-, hmapsError, hplaces⟩ := tokenize_map keepsClasses_representative refused none
  refine ⟨keepsClasses_representative, hok, herror, (hmapsTokens tokens hok).trans ?_, ?_⟩
  · decide +kernel
  · obtain ⟨front, back, hsource, hposition, -, himage⟩ := hmapsError _ herror
    have hparts : front ++ back = "b ".toList ++ "@".toList := hsource
    have hoffset := hplaces refused (by decide +kernel) front back hsource
    rw [← hposition] at hoffset
    obtain ⟨rfl, -⟩ := Text.append_inj_of_byteLength hparts hoffset.symm
    rw [himage]
    decide +kernel

end LkLexer
