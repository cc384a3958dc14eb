import LkLexer.Proofs.Boundary

/-!
# Text that may be stepped over

Comments, blanks and newlines keep tokens apart and mean nothing themselves. Put between two tokens they do
not change what the tokens beside them are: a blank may run together with the blank next to it, and then is
stepped over with it, and every other lexeme ends where trivia begins or stands behind trivia that has ended.
Only a line comment would go on over what follows, so neither the text in front nor the trivia may end in one.
Main statement: trivia between the tokens of an accepted source leaves its significant tokens as they are
(`exists_tokenize_insert_trivia`).
-/

namespace LkLexer

/-- The lexemes that may not be stepped over. -/
def Lexeme.significant (lexemes : List Lexeme) : List Lexeme :=
  lexemes.filter (!·.kind.isTrivia)

namespace Token

/-- The tokens that may not be stepped over. -/
def significant (tokens : List Token) : List Token :=
  tokens.filter (!·.isTrivia)

/-- The lexemes of the significant tokens are the significant ones among all lexemes. -/
theorem lexemes_significant (tokens : List Token) :
    lexemes (significant tokens) = Lexeme.significant (lexemes tokens) := by
  rw [lexemes, lexemes, Lexeme.significant, List.filter_map]
  rfl

end Token

namespace Lexeme

@[simp] theorem significant_append (front back : List Lexeme) :
    significant (front ++ back) = significant front ++ significant back :=
  List.filter_append front back

/-- Of trivia nothing is significant. -/
theorem significant_eq_nil {lexemes : List Lexeme} (htrivia : ∀ lexeme ∈ lexemes, lexeme.kind.isTrivia = true) :
    significant lexemes = [] := by
  rw [significant, List.filter_eq_nil_iff]
  intro lexeme hmem
  simp [htrivia lexeme hmem]

section Seam

variable {front back later : List Lexeme}

/-- Two blanks that meet are one blank. -/
theorem Arranged.append_blank {first second : Text} (hfront : Arranged (front ++ [⟨.whitespace, first⟩]))
    (hback : Arranged (⟨.whitespace, second⟩ :: later)) :
    Arranged (front ++ ⟨.whitespace, first ++ second⟩ :: later) := by
  rw [arranged_append_iff] at hfront ⊢
  rw [← List.singleton_append, arranged_append_iff] at hback ⊢
  obtain ⟨hapart, hne, hfirst⟩ := hfront
  obtain ⟨⟨⟨-, hsecond⟩, hstops, -⟩, hlater⟩ := hback
  have hmembers : ∀ c ∈ first ++ second, CharClass.blank.contains c = true :=
    List.forall_mem_append.mpr ⟨hfirst, hsecond⟩
  refine ⟨?_, ⟨⟨List.append_ne_nil_of_left_ne_nil hne second, hmembers⟩, hstops, trivial⟩, hlater⟩
  -- What is in front of the blank sees only its first character.
  obtain ⟨c, text, rfl⟩ := List.exists_cons_of_ne_nil hne
  exact (setApart_congr (by rfl) front).mp hapart

/-- A blank that goes on into arranged lexemes goes on into a blank. -/
theorem Arranged.exists_blank_cons {last : Lexeme} (hback : Arranged back) (hlast : last.kind = .whitespace)
    (hgoes : ¬last.kind.StopsBefore (joined back)) : ∃ second later, back = ⟨.whitespace, second⟩ :: later := by
  cases back with
  | nil => exact absurd (Kind.stopsBefore_nil last.kind) hgoes
  | cons next later =>
    rw [joined_cons, stopsBefore_append_iff hback.valid_head, MayPrecede, hlast, not_not] at hgoes
    obtain ⟨kind, second⟩ := next
    obtain rfl : kind = .whitespace := hgoes
    exact ⟨second, later, rfl⟩

/-- Two arranged lists whose texts meet are arranged together, with the same significant lexemes, if the last
lexeme of the front is a blank or ends where the back begins. -/
theorem exists_arranged_joined_append (hfront : Arranged front) (hback : Arranged back)
    (hseam : ∀ last ∈ front.getLast?, last.kind = .whitespace ∨ last.kind.StopsBefore (joined back)) :
    ∃ both, Arranged both ∧ joined both = joined front ++ joined back ∧
      significant both = significant front ++ significant back := by
  by_cases hstops : ∀ last ∈ front.getLast?, last.kind.StopsBefore (joined back)
  · have hapart := (setApart_iff front (joined back)).mpr ⟨hfront, hstops⟩
    exact ⟨front ++ back, (arranged_append_iff front back).mpr ⟨hapart, hback⟩, joined_append front back,
      significant_append front back⟩
  · -- Only a blank goes on over the seam, and then into a blank.
    simp only [not_forall] at hstops
    obtain ⟨last, hlast, hgoes⟩ := hstops
    have hblank : last.kind = .whitespace := (hseam last hlast).resolve_right hgoes
    obtain ⟨second, later, rfl⟩ := hback.exists_blank_cons hblank hgoes
    obtain ⟨before, rfl⟩ := List.getLast?_eq_some_iff.mp hlast
    obtain ⟨kind, first⟩ := last
    obtain rfl : kind = .whitespace := hblank
    refine ⟨before ++ ⟨.whitespace, first ++ second⟩ :: later, hfront.append_blank hback, ?_, ?_⟩
    · simp
    · simp [significant, Kind.isTrivia]

/-- A lexeme other than a line comment is a blank or ends where trivia begins. -/
theorem stopsBefore_trivia {last first : Lexeme} (hlast : last.kind ≠ .comment) (hfirst : first.Valid)
    (htrivia : first.kind.isTrivia = true) (after : Text) :
    last.kind = .whitespace ∨ last.kind.StopsBefore (first.value ++ after) := by
  rw [stopsBefore_append_iff hfirst]
  obtain ⟨kind, value⟩ := last
  cases kind with
  | identifier =>
    refine Or.inr fun hidentifier => ?_
    rw [hidentifier] at htrivia
    exact absurd htrivia (by decide)
  | whitespace => exact Or.inl rfl
  | comment => exact absurd rfl hlast
  | _ => exact Or.inr trivial

/-- Trivia other than a line comment is a blank or ends wherever it does. -/
theorem trivia_stopsBefore {kind : Kind} (hkind : kind ≠ .comment) (htrivia : kind.isTrivia = true) (after : Text) :
    kind = .whitespace ∨ kind.StopsBefore after := by
  cases kind with
  | whitespace => exact Or.inl rfl
  | blockComment | newline => exact Or.inr fun c _ => rfl
  | comment => exact absurd rfl hkind
  | _ => exact absurd htrivia (by decide)

/-- Arranged trivia between two lists that stand apart is arranged with both of them. -/
theorem exists_arranged_insert_trivia {gap : List Lexeme} (hapart : SetApart front (joined back))
    (hback : Arranged back) (hclosed : ∀ last ∈ front.getLast?, last.kind ≠ .comment) (hgap : Arranged gap)
    (htrivia : ∀ lexeme ∈ gap, lexeme.kind.isTrivia = true)
    (hgapClosed : ∀ last ∈ gap.getLast?, last.kind ≠ .comment) :
    ∃ padded, Arranged padded ∧ joined padded = joined front ++ joined gap ++ joined back ∧
      significant padded = significant front ++ significant back := by
  obtain ⟨hfront, hstops⟩ := (setApart_iff front (joined back)).mp hapart
  -- The seam behind the trivia comes first: at the one before it, nothing else is seen than how the trivia begins.
  obtain ⟨behind, hbehind, hjoined, hsignificant⟩ := exists_arranged_joined_append hgap hback fun last hlast =>
    trivia_stopsBefore (hgapClosed last hlast) (htrivia last (List.mem_of_getLast? hlast)) _
  have hseam : ∀ last ∈ front.getLast?, last.kind = .whitespace ∨ last.kind.StopsBefore (joined behind) := by
    intro last hlast
    rw [hjoined]
    cases gap with
    | nil => exact Or.inr (hstops last hlast)
    | cons first later =>
      rw [joined_cons, List.append_assoc]
      exact stopsBefore_trivia (hclosed last hlast) hgap.valid_head (htrivia first List.mem_cons_self) _
  obtain ⟨padded, hpadded, hall, hsame⟩ := exists_arranged_joined_append hfront hbehind hseam
  refine ⟨padded, hpadded, ?_, ?_⟩
  · rw [hall, hjoined, List.append_assoc]
  · rw [hsame, hsignificant, significant_eq_nil htrivia, List.nil_append]

end Seam

end Lexeme

/-- Where an accepted source is cut between tokens, and not behind a line comment, accepted trivia that does not
end in a line comment can be put in: the text is accepted, and its significant tokens have the same kinds and
values in the same order. -/
theorem exists_tokenize_insert_trivia {source trivia : Text} {label? : Option Text} {tokens gap : List Token}
    (hok : tokenize source label? = .ok tokens) (index : Nat)
    (hclosed : ∀ last ∈ (tokens.take index).getLast?, last.kind ≠ .comment)
    (hgap : tokenize trivia label? = .ok gap) (htrivia : ∀ token ∈ gap, token.isTrivia = true)
    (hgapClosed : ∀ last ∈ gap.getLast?, last.kind ≠ .comment) :
    ∃ front back padded,
      Text.cut? (Token.boundary tokens index) source = some (front, back) ∧
        tokenize (front ++ trivia ++ back) label? = .ok padded ∧
        Token.lexemes (Token.significant padded) = Token.lexemes (Token.significant tokens) := by
  obtain ⟨front, back, hcut, hapart, hback, htake, hdrop⟩ := exists_setApart_of_boundary hok index
  obtain ⟨between, hbetween, rfl, rfl⟩ := tokenize_eq_ok_iff.mp hgap
  rw [htake, ← Token.forall_mem_getLast?_lexemes_iff _ fun last => last.kind ≠ .comment, Token.lexemes_layOut]
    at hclosed
  rw [← Token.forall_mem_getLast?_lexemes_iff _ fun last => last.kind ≠ .comment, Token.lexemes_layOut]
    at hgapClosed
  have hbetweenTrivia : ∀ lexeme ∈ between, lexeme.kind.isTrivia = true := by
    intro lexeme hmem
    rw [← Token.lexemes_layOut (label?.getD defaultLabel) 0 between] at hmem
    obtain ⟨token, htoken, rfl⟩ := List.mem_map.mp hmem
    exact htrivia token htoken
  obtain ⟨padded, hpadded, hjoined, hsignificant⟩ :=
    Lexeme.exists_arranged_insert_trivia hapart hback hclosed hbetween hbetweenTrivia hgapClosed
  refine ⟨_, _, _, hcut, hjoined ▸ tokenize_joined hpadded, ?_⟩
  have htokens : Token.lexemes tokens = front ++ back := by
    rw [← List.take_append_drop index tokens, htake, hdrop, Token.lexemes, List.map_append]
    exact congrArg₂ (· ++ ·) (Token.lexemes_layOut _ _ front) (Token.lexemes_layOut _ _ back)
  rw [Token.lexemes_significant, Token.lexemes_significant, Token.lexemes_layOut, hsignificant, htokens,
    Lexeme.significant_append]

/-- Behind a blank, a blank and two comments that hold openings leave an operator and a word as they are. -/
theorem exists_tokenize_insert_comments :
    let source := "a !=b".toList
    let trivia := "\t//*\n/*é*/ ".toList
    let tokens : List Token :=
      [⟨⟨.identifier, "a".toList⟩, .between defaultLabel 0 1⟩, ⟨⟨.whitespace, " ".toList⟩, .between defaultLabel 1 2⟩,
       ⟨⟨.notEquals, "!=".toList⟩, .between defaultLabel 2 4⟩, ⟨⟨.identifier, "b".toList⟩, .between defaultLabel 4 5⟩]
    let gap : List Token :=
      [⟨⟨.whitespace, "\t".toList⟩, .between defaultLabel 0 1⟩, ⟨⟨.comment, "//*".toList⟩, .between defaultLabel 1 4⟩,
       ⟨⟨.newline, "\n".toList⟩, .between defaultLabel 4 5⟩,
       ⟨⟨.blockComment, "/*é*/".toList⟩, .between defaultLabel 5 11⟩,
       ⟨⟨.whitespace, " ".toList⟩, .between defaultLabel 11 12⟩]
    tokenize source none = .ok tokens ∧ tokenize trivia none = .ok gap ∧
      ∃ front back padded,
        Text.cut? (Token.boundary tokens 2) source = some (front, back) ∧
          tokenize (front ++ trivia ++ back) none = .ok padded ∧
          Token.lexemes (Token.significant padded) = Token.lexemes (Token.significant tokens) := by
  intro source trivia tokens gap
  have hok : tokenize source none = .ok tokens := by decide +kernel
  have hgap : tokenize trivia none = .ok gap := by decide +kernel
  refine ⟨hok, hgap, exists_tokenize_insert_trivia hok 2 ?_ hgap ?_ ?_⟩
  · decide
  · decide
  · decide

end LkLexer
