import LkLexer.Command.Outcome
import LkLexer.Proofs.Labels
import LkLexer.Proofs.Quotation

/-!
# What can be read off a listing

A token is listed on one line, on which each part ends before the next begins: the name of the kind before the
first blank, the quoted characters with their closing delimiter, the numbers with the dots between them. So a
line tells everything of its token but the label, and a listing tells its tokens one after the other. Main
statement: listings are the same exactly when their tokens are, labels apart, and the listings of accepted
sources exactly when the sources are (`printed_eq_printed_iff`).
-/

namespace LkLexer

/-- The name of a kind is one word. -/
theorem Kind.not_mem_name (kind : Kind) : ' ' ∉ kind.name ∧ '\n' ∉ kind.name := by
  cases kind <;> decide

namespace Token

/-- A line of a listing tells its token, the label apart. -/
theorem listing_eq_listing_iff (token other : Token) : token.listing = other.listing ↔ token.Agrees other := by
  refine ⟨fun heq => ?_, fun hagrees => ?_⟩
  · have hdot (n : Nat) : '.' ∉ Text.decimal n := Text.not_mem_decimal (by decide) n
    -- The parts are known from the front on, each with where it ends.
    simp only [listing, List.append_assoc] at heq
    obtain ⟨hname, heq⟩ := Text.append_cons_injective token.kind.not_mem_name.1 other.kind.not_mem_name.1 heq
    obtain ⟨hvalue, heq⟩ := Text.quote_append_injective (List.cons.inj heq).2
    obtain ⟨hstart, heq⟩ := Text.append_cons_injective (hdot _) (hdot _) (List.append_cancel_left heq)
    have hstop := (List.cons.inj heq).2
    exact ⟨Kind.name_injective hname, hvalue, Text.decimal_injective hstart, Text.decimal_injective hstop⟩
  · obtain ⟨hkind, hvalue, hstart, hstop⟩ := hagrees
    rw [listing, listing, hkind, hvalue, hstart, hstop]

/-- A token is listed on one line. -/
theorem newline_not_mem_listing (token : Token) : '\n' ∉ token.listing := by
  have hdecimal (n : Nat) : '\n' ∉ Text.decimal n := Text.not_mem_decimal (by decide) n
  simp [listing, token.kind.not_mem_name.2, Text.newline_not_mem_quote, hdecimal]

/-- Tokens that agree have the same lexemes. -/
theorem lexemes_eq_of_forall₂_agrees {tokens others : List Token} (hagrees : List.Forall₂ Agrees tokens others) :
    lexemes tokens = lexemes others := by
  induction hagrees with
  | nil => rfl
  | cons hagrees _ ih =>
    have hlexeme := Lexeme.mk.injEq _ _ _ _ ▸ And.intro hagrees.kind hagrees.value
    exact congrArg₂ List.cons hlexeme ih

end Token

namespace Command

/-- A listing of no tokens is empty, and any other is a line and the listing of the tokens behind the first. -/
theorem printed_cons (token : Token) (later : List Token) :
    printed true (token :: later) = token.listing ++ '\n' :: printed true later :=
  List.append_assoc _ ['\n'] _

/-- Listings are the same exactly when their tokens agree one by one. -/
theorem printed_eq_printed_iff_forall₂ (tokens others : List Token) :
    printed true tokens = printed true others ↔ List.Forall₂ Token.Agrees tokens others := by
  induction tokens generalizing others with
  | nil =>
    cases others with
    | nil => exact iff_of_true rfl .nil
    | cons other later => simp [printed, line]
  | cons token later ih =>
    cases others with
    | nil => simp [printed, line]
    | cons other others =>
      rw [List.forall₂_cons, printed_cons, printed_cons, ← ih, ← Token.listing_eq_listing_iff]
      refine ⟨fun heq => ?_, fun hsame => by rw [hsame.1, hsame.2]⟩
      exact Text.append_cons_injective token.newline_not_mem_listing other.newline_not_mem_listing heq

/-- A listing has one line for each token. -/
theorem count_newline_printed (tokens : List Token) : (printed true tokens).count '\n' = tokens.length := by
  induction tokens with
  | nil => rfl
  | cons token later ih =>
    rw [printed_cons, List.count_append, List.count_eq_zero.mpr token.newline_not_mem_listing, List.count_cons_self,
      ih, Nat.zero_add, List.length_cons]

/-- A line of a listing does not show the label. -/
theorem listing_relabel (label : Text) (token : Token) : (token.relabel label).listing = token.listing := rfl

/-- What is printed for tokens does not show their labels. -/
theorem printed_map_relabel (listing : Bool) (label : Text) (tokens : List Token) :
    printed listing (tokens.map (Token.relabel label)) = printed listing tokens := by
  cases listing with
  | true => simp [printed, List.flatMap_map, listing_relabel]
  | false => simp [printed, Token.lexemes_map_relabel]

/-- The tokenizer ends its work on a file with the result that its text has under any label, except for the label. -/
theorem result_endingOf (path source : Text) (label? : Option Text) :
    (endingOf path source).result =
      (tokenize source label?).relabel ((Path.fileName? path).getD defaultLabel) :=
  tokenize_eq_relabel source label? (Path.fileName? path)

/-- An accepted text is run with success, and its tokens are printed. -/
theorem exists_runText_eq {source : Text} {label? : Option Text} {tokens : List Token}
    (hok : tokenize source label? = .ok tokens) (log : Log) (path : Text) (listing : Bool) :
    ∃ stderr, runText log path listing source = some ⟨0, printed listing tokens, stderr⟩ := by
  rw [runText, result_endingOf path source label?, hok]
  simp only [LexResult.relabel, printed_map_relabel]
  exact ⟨_, rfl⟩

/-- Accepted sources have tokens that agree one by one exactly when they are the same. -/
theorem forall₂_agrees_iff {source other : Text} {label? other? : Option Text} {tokens others : List Token}
    (hok : tokenize source label? = .ok tokens) (hother : tokenize other other? = .ok others) :
    List.Forall₂ Token.Agrees tokens others ↔ source = other := by
  refine ⟨fun hagrees => ?_, fun heq => ?_⟩
  · rw [← joined_lexemes_of_tokenize_eq_ok hok, ← joined_lexemes_of_tokenize_eq_ok hother,
      Token.lexemes_eq_of_forall₂_agrees hagrees]
  · subst heq
    rw [tokenize_eq_relabel source label? other?, hok] at hother
    obtain rfl := Except.ok.inj hother
    exact Token.forall₂_agrees_map_relabel _ tokens

/-- Listings are the same exactly when they are of equally many tokens that agree one by one in kind, characters
and range. So the line of a token has no newline and there are as many lines as tokens, and accepted sources
are listed the same exactly when they are the same. -/
theorem printed_eq_printed_iff (tokens others : List Token) :
    (printed true tokens = printed true others ↔ List.Forall₂ Token.Agrees tokens others) ∧
      (∀ token ∈ tokens, '\n' ∉ token.listing) ∧ (printed true tokens).count '\n' = tokens.length ∧
      ∀ source other label? other?, tokenize source label? = .ok tokens → tokenize other other? = .ok others →
        ∀ log path path', ∃ outcome another, runText log path true source = some outcome ∧
          runText log path' true other = some another ∧ (outcome.stdout = another.stdout ↔ source = other) := by
  refine ⟨printed_eq_printed_iff_forall₂ tokens others, fun token _ => token.newline_not_mem_listing,
    count_newline_printed tokens, fun source other label? other? hok hother log path path' => ?_⟩
  obtain ⟨stderr, hrun⟩ := exists_runText_eq hok log path true
  obtain ⟨stderr', hrun'⟩ := exists_runText_eq hother log path' true
  refine ⟨_, _, hrun, hrun', ?_⟩
  rw [printed_eq_printed_iff_forall₂]
  exact forall₂_agrees_iff hok hother

/-- A quote and a quote behind a backslash are listed in different ways. -/
theorem stdout_ne_of_backslash :
    let source := "//\"".toList
    let other := "//\\\"".toList
    let tokens : List Token := [⟨⟨.comment, source⟩, .between "a".toList 0 3⟩]
    let others : List Token := [⟨⟨.comment, other⟩, .between "b".toList 0 4⟩]
    let log := Log.upTo .warn fun _ => []
    tokenize source (some "a".toList) = .ok tokens ∧ tokenize other (some "b".toList) = .ok others ∧
      ∃ outcome another, runText log "a".toList true source = some outcome ∧
        runText log "b".toList true other = some another ∧ outcome.stdout ≠ another.stdout := by
  intro source other tokens others log
  have hok : tokenize source (some "a".toList) = .ok tokens := by decide +kernel
  have hother : tokenize other (some "b".toList) = .ok others := by decide +kernel
  obtain ⟨-, -, -, hsame⟩ := printed_eq_printed_iff tokens others
  obtain ⟨outcome, another, hrun, hrun', hsources⟩ :=
    hsame source other _ _ hok hother log "a".toList "b".toList
  refine ⟨hok, hother, outcome, another, hrun, hrun', fun heq => ?_⟩
  exact absurd (hsources.mp heq) (by decide)

end Command

end LkLexer
