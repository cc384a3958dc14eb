import LkLexer.Token.Lexeme

/-!
# Seams between lexemes

Whether a lexeme ends where the next one begins depends on its kind and on one character: the first one
behind it. This module names the characters with which a kind begins and those with which it would go on,
and says when lexemes stand apart from one another and from a text behind them. Main statement: they do so
exactly when they are arranged and the last of them does not go on into the text (`setApart_iff`).
-/

namespace LkLexer

namespace Kind

/-- The characters with which lexemes of a kind begin. -/
def beginsWith : Kind → Char → Bool
  | identifier, c => CharClass.word.contains c
  | openCurly, c => c = '{'
  | closeCurly, c => c = '}'
  | openParen, c => c = '('
  | closeParen, c => c = ')'
  | colon, c => c = ':'
  | arrow, c => c = '-'
  | equals, c => c = '='
  | notEquals, c => c = '!'
  | and, c => c = '&'
  | or, c => c = '|'
  | comment, c => c = '/'
  | blockComment, c => c = '/'
  | newline, c => c = '\n'
  | whitespace, c => CharClass.blank.contains c

/-- The characters that would prolong a lexeme of a kind if they stood right behind it. -/
def continuesWith : Kind → Char → Bool
  | identifier, c => CharClass.word.contains c
  | whitespace, c => CharClass.blank.contains c
  | comment, c => Text.isInline c
  | _, _ => false

/-- A lexeme of the kind ends where the text begins. -/
def StopsBefore (kind : Kind) (after : Text) : Prop :=
  ∀ c ∈ after.head?, kind.continuesWith c = false

/-- Every lexeme can end at the end of a source. -/
@[simp] theorem stopsBefore_nil (kind : Kind) : kind.StopsBefore [] := by
  simp [StopsBefore]

@[simp] theorem stopsBefore_cons (kind : Kind) (c : Char) (after : Text) :
    kind.StopsBefore (c :: after) ↔ kind.continuesWith c = false := by
  simp [StopsBefore]

/-- No lexeme goes on into a newline. -/
theorem continuesWith_newline (kind : Kind) : kind.continuesWith '\n' = false := by
  cases kind <;> decide

/-- Only identifiers begin with the character of a word. -/
theorem word_contains_iff_of_beginsWith {kind : Kind} {c : Char} (hbegins : kind.beginsWith c = true) :
    CharClass.word.contains c = true ↔ kind = identifier := by
  cases kind with
  | identifier => exact iff_of_true hbegins rfl
  | whitespace =>
    have hnot : CharClass.word.contains c ≠ true := fun hword => by
      have hblank := CharClass.blank_contains_of_word_contains hword
      rw [beginsWith, hblank] at hbegins
      contradiction
    exact iff_of_false hnot (by decide)
  | _ =>
    obtain rfl := of_decide_eq_true hbegins
    decide

/-- Only blanks begin with white space within a line. -/
theorem blank_contains_iff_of_beginsWith {kind : Kind} {c : Char} (hbegins : kind.beginsWith c = true) :
    CharClass.blank.contains c = true ↔ kind = whitespace := by
  cases kind with
  | identifier =>
    have hblank := CharClass.blank_contains_of_word_contains hbegins
    exact iff_of_false (by rw [hblank]; decide) (by decide)
  | whitespace => exact iff_of_true hbegins rfl
  | _ =>
    obtain rfl := of_decide_eq_true hbegins
    decide

/-- Only newlines begin with what ends a line. -/
theorem isInline_eq_false_iff_of_beginsWith {kind : Kind} {c : Char} (hbegins : kind.beginsWith c = true) :
    Text.isInline c = false ↔ kind = newline := by
  cases kind with
  | identifier =>
    have hne : c ≠ '\n' := by
      intro hc
      subst hc
      exact absurd hbegins (by decide)
    simp [Text.isInline, hne]
  | whitespace =>
    have hinline : Text.isInline c = true := (Bool.and_eq_true_iff.mp hbegins).2
    simp [hinline]
  | _ =>
    obtain rfl := of_decide_eq_true hbegins
    decide

end Kind

namespace Lexeme

variable {lexeme first second : Lexeme}

/-- A valid lexeme has a first character, with which its kind can begin. -/
theorem Valid.exists_cons (hvalid : lexeme.Valid) :
    ∃ c text, lexeme.value = c :: text ∧ lexeme.kind.beginsWith c = true := by
  obtain ⟨kind, value⟩ := lexeme
  cases kind with
  | identifier | whitespace =>
    obtain ⟨hne, hmembers⟩ := hvalid
    obtain ⟨c, text, rfl⟩ := List.exists_cons_of_ne_nil hne
    exact ⟨c, text, rfl, hmembers c List.mem_cons_self⟩
  | comment =>
    obtain ⟨body, hvalue, -⟩ := hvalid
    exact ⟨_, _, hvalue, rfl⟩
  | blockComment =>
    obtain ⟨body, hvalue, -⟩ := hvalid
    exact ⟨_, _, hvalue, rfl⟩
  | _ => exact ⟨_, _, hvalid, rfl⟩

/-- A valid lexeme is written with at least one character. -/
theorem Valid.value_ne_nil (hvalid : lexeme.Valid) : lexeme.value ≠ [] := by
  obtain ⟨c, text, hvalue, -⟩ := hvalid.exists_cons
  rw [hvalue]
  exact List.cons_ne_nil c text

/-- A lexeme may precede a valid one exactly when it ends where that one begins. -/
theorem stopsBefore_append_iff (hsecond : second.Valid) (after : Text) :
    first.kind.StopsBefore (second.value ++ after) ↔ first.MayPrecede second := by
  obtain ⟨c, text, hvalue, hbegins⟩ := hsecond.exists_cons
  rw [hvalue, List.cons_append, Kind.stopsBefore_cons]
  obtain ⟨kind, value⟩ := first
  cases kind with
  | identifier =>
    change CharClass.word.contains c = false ↔ ¬second.kind = .identifier
    rw [← Kind.word_contains_iff_of_beginsWith hbegins, Bool.not_eq_true]
  | whitespace =>
    change CharClass.blank.contains c = false ↔ ¬second.kind = .whitespace
    rw [← Kind.blank_contains_iff_of_beginsWith hbegins, Bool.not_eq_true]
  | comment => exact Kind.isInline_eq_false_iff_of_beginsWith hbegins
  | _ => exact iff_of_true rfl trivial

/-- Valid lexemes, each of which ends where the next one begins, and the last one where the text begins. -/
def SetApart : List Lexeme → Text → Prop
  | [], _ => True
  | lexeme :: later, rest =>
    lexeme.Valid ∧ lexeme.kind.StopsBefore (joined later ++ rest) ∧ SetApart later rest

@[simp] theorem joined_nil : joined [] = [] := rfl

@[simp] theorem joined_cons (lexeme : Lexeme) (later : List Lexeme) :
    joined (lexeme :: later) = lexeme.value ++ joined later := rfl

@[simp] theorem joined_append (front back : List Lexeme) :
    joined (front ++ back) = joined front ++ joined back :=
  List.flatMap_append

/-- The first of arranged lexemes is valid. -/
theorem Arranged.valid_head {later : List Lexeme} (harranged : Arranged (lexeme :: later)) : lexeme.Valid := by
  cases later with
  | nil => exact harranged
  | cons next later => exact harranged.1

/-- Lexemes stand apart from a text when they are arranged and the last one ends where the text begins. -/
theorem setApart_iff (lexemes : List Lexeme) (rest : Text) :
    SetApart lexemes rest ↔
      Arranged lexemes ∧ ∀ last ∈ lexemes.getLast?, last.kind.StopsBefore rest := by
  induction lexemes with
  | nil => simp [SetApart, Arranged]
  | cons lexeme later ih =>
    cases later with
    | nil => simp [SetApart, Arranged]
    | cons next later =>
      rw [SetApart, ih, Arranged, List.getLast?_cons_cons, joined_cons, List.append_assoc]
      refine ⟨fun hapart => ?_, fun harranged => ?_⟩
      · obtain ⟨hvalid, hstops, harranged, hlast⟩ := hapart
        exact ⟨⟨hvalid, (stopsBefore_append_iff harranged.valid_head _).mp hstops, harranged⟩, hlast⟩
      · obtain ⟨⟨hvalid, hprecede, harranged⟩, hlast⟩ := harranged
        exact ⟨hvalid, (stopsBefore_append_iff harranged.valid_head _).mpr hprecede, harranged, hlast⟩

/-- Lexemes stand apart from a text when those of the front do from the back and the text together, and those
of the back do from the text. -/
theorem setApart_append_iff (front back : List Lexeme) (rest : Text) :
    SetApart (front ++ back) rest ↔ SetApart front (joined back ++ rest) ∧ SetApart back rest := by
  induction front with
  | nil => simp [SetApart]
  | cons lexeme later ih =>
    rw [List.cons_append, SetApart, SetApart, ih, joined_append, List.append_assoc, and_assoc, and_assoc]

/-- Lexemes stand apart from all texts that begin with the same character. -/
theorem setApart_congr {rest other : Text} (hhead : rest.head? = other.head?) (lexemes : List Lexeme) :
    SetApart lexemes rest ↔ SetApart lexemes other := by
  simp only [setApart_iff, Kind.StopsBefore, hhead]

/-- Lexemes that stand apart from a text still do when more follows it. -/
theorem SetApart.append {lexemes : List Lexeme} {rest : Text} (hapart : SetApart lexemes rest)
    (hrest : rest ≠ []) (more : Text) : SetApart lexemes (rest ++ more) := by
  obtain ⟨c, after, rfl⟩ := List.exists_cons_of_ne_nil hrest
  exact (setApart_congr (by rfl) lexemes).mp hapart

/-- At the end of a source only the arrangement matters. -/
theorem setApart_nil_iff (lexemes : List Lexeme) : SetApart lexemes [] ↔ Arranged lexemes := by
  simp [setApart_iff]

end Lexeme

end LkLexer
