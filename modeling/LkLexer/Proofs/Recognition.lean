import LkLexer.Proofs.Seam
import LkLexer.Rule.Basic
import Mathlib.Data.List.TakeWhile

/-!
# What a rule takes

A rule decides by one look ahead whether it applies and by another how far its token goes. Together the two
looks find a lexeme of the rule's kind that ends where the text behind it begins, and every such lexeme is
found (`applies_and_extent?_iff`). The end of a block comment is the first closing behind its opening
(`closing?_eq_some_iff`); there is none exactly when the text behind the opening holds no closing
(`closing?_eq_none_iff`).
-/

namespace LkLexer

/-- The longest run of characters of a class is the one that ends before a character outside the class. -/
theorem Text.takeWhile_eq_iff {members : Char → Bool} {rest value : Text} :
    rest.takeWhile members = value ↔
      ∃ after, rest = value ++ after ∧ (∀ c ∈ value, members c = true) ∧ ∀ c ∈ after.head?, members c = false := by
  refine ⟨fun htaken => ?_, fun hrun => ?_⟩
  · subst htaken
    refine ⟨rest.dropWhile members, List.takeWhile_append_dropWhile.symm, fun c hc => List.mem_takeWhile_imp hc, ?_⟩
    intro c hc
    have hnot := List.head?_dropWhile_not members rest
    rw [Option.mem_def.mp hc] at hnot
    exact hnot
  · obtain ⟨after, rfl, hvalue, hafter⟩ := hrun
    rw [List.takeWhile_append_of_pos hvalue]
    cases after with
    | nil => simp
    | cons c after =>
      have hc : members c = false := hafter c rfl
      simp [hc]

/-- A text begins with a single character exactly when that is its first one. -/
theorem Text.singleton_prefix_iff (c : Char) (rest : Text) : [c] <+: rest ↔ rest.head? = some c := by
  cases rest with
  | nil => simp
  | cons d rest => simp [List.cons_prefix_cons, eq_comm]

/-- The text begins with a lexeme of the kind that takes up a number of characters and ends there. -/
def Kind.Heads (kind : Kind) (rest : Text) (count : Nat) : Prop :=
  ∃ value after, rest = value ++ after ∧ value.length = count ∧
    Lexeme.Valid ⟨kind, value⟩ ∧ kind.StopsBefore after

namespace Handler

/-- In front of a closing, no closing begins in a text that holds none. -/
theorem not_blockClosing_prefix_cons {c : Char} {body after : Text}
    (hbody : ¬blockClosing <:+: c :: body) : ¬blockClosing <+: c :: body ++ blockClosing ++ after := by
  intro hcloses
  obtain ⟨tail, htail⟩ := hcloses
  cases body with
  | nil => simp [blockClosing] at htail
  | cons d body =>
    -- Both characters of the closing would lie in the text itself.
    simp only [blockClosing, List.cons_append, List.nil_append, List.cons.injEq] at htail
    obtain ⟨rfl, rfl, -⟩ := htail
    exact hbody ⟨[], body, rfl⟩

/-- The end that is found is that of the first closing. -/
theorem closing?_eq_some_iff {passed count : Nat} {rest : Text} :
    closing? passed rest = some count ↔
      ∃ body after, rest = body ++ blockClosing ++ after ∧ ¬blockClosing <:+: body ∧
        passed + body.length + blockClosing.length = count := by
  induction rest generalizing passed with
  | nil => simp [closing?, blockClosing]
  | cons c rest ih =>
    rw [closing?]
    split
    · next hcloses =>
      obtain ⟨tail, htail⟩ := List.isPrefixOf_iff_prefix.mp hcloses
      rw [Option.some.injEq]
      refine ⟨fun hcount => ⟨[], tail, htail.symm, by decide, hcount⟩, fun hfirst => ?_⟩
      obtain ⟨body, after, hrest, hbody, hcount⟩ := hfirst
      cases body with
      | nil => exact hcount
      | cons d body =>
        rw [hrest] at htail
        exact absurd ⟨tail, htail⟩ (not_blockClosing_prefix_cons hbody)
    · next hcloses =>
      rw [List.isPrefixOf_iff_prefix] at hcloses
      rw [ih]
      refine ⟨fun hfirst => ?_, fun hfirst => ?_⟩
      · obtain ⟨body, after, rfl, hbody, hcount⟩ := hfirst
        refine ⟨c :: body, after, rfl, fun hinfix => ?_, by rw [List.length_cons]; omega⟩
        rcases List.infix_cons_iff.mp hinfix with hopens | hinfix
        · exact hcloses (hopens.trans ⟨blockClosing ++ after, by simp⟩)
        · exact hbody hinfix
      · obtain ⟨body, after, hrest, hbody, hcount⟩ := hfirst
        cases body with
        | nil => exact absurd ⟨after, hrest.symm⟩ hcloses
        | cons d body =>
          simp only [List.cons_append, List.cons.injEq] at hrest
          obtain ⟨rfl, rfl⟩ := hrest
          rw [List.length_cons] at hcount
          exact ⟨body, after, rfl, fun hinfix => hbody (List.infix_cons hinfix), by omega⟩

/-- No end is found exactly when there is no closing. -/
theorem closing?_eq_none_iff {passed : Nat} {rest : Text} :
    closing? passed rest = none ↔ ¬blockClosing <:+: rest := by
  induction rest generalizing passed with
  | nil => simp [closing?, blockClosing]
  | cons c rest ih =>
    rw [closing?]
    split
    · next hcloses =>
      have hopens := List.isPrefixOf_iff_prefix.mp hcloses
      simp [hopens.isInfix]
    · next hcloses =>
      rw [ih, List.infix_cons_iff, not_or, ← List.isPrefixOf_iff_prefix]
      simp [hcloses]

end Handler

namespace Pattern

/-- The text begins with what a pattern looks for: with its literal, or with a character of its class. -/
def Opens : Pattern → Text → Prop
  | literal text, rest => text <+: rest
  | run members, rest => ∃ c ∈ rest.head?, members.contains c = true

/-- A literal is found ahead when the text begins with it. -/
theorem isSome_literal?_iff (text rest : Text) : (literal? text rest).isSome = true ↔ text <+: rest := by
  rw [← List.isPrefixOf_iff_prefix, literal?]
  split <;> simp_all

/-- A pattern finds something exactly where the text begins with what it looks for. -/
theorem isSome_find?_iff (pattern : Pattern) (rest : Text) :
    (pattern.find? rest).isSome = true ↔ pattern.Opens rest := by
  cases pattern with
  | literal text => exact isSome_literal?_iff text rest
  | run members =>
    cases rest with
    | nil => simp [find?, Opens]
    | cons c rest => by_cases hc : members.contains c = true <;> simp [find?, Opens, hc]

/-- What a search for a run finds has as many characters as the run, which may be none. -/
theorem elim_find?_run (members : CharClass) (rest : Text) :
    ((run members).find? rest).elim 0 List.length = (rest.takeWhile members.contains).length := by
  rw [find?]
  cases rest.takeWhile members.contains <;> rfl

end Pattern

namespace Rule

/-- A rule applies exactly where the text begins with what its pattern looks for. -/
theorem applies_iff_opens (rule : Rule) (rest : Text) : rule.applies rest = true ↔ rule.pattern.Opens rest :=
  rule.pattern.isSome_find?_iff rest

/-- Both columns of a rule are what the lexemes of its kind are written with. -/
inductive Suits : Rule → Prop
  | fixed {kind : Kind} {text : Text} : (∀ value, Lexeme.Valid ⟨kind, value⟩ ↔ value = text) →
      (∀ c, kind.continuesWith c = false) → Suits ⟨.literal text, .fixed kind text⟩
  | run {kind : Kind} {members : CharClass} :
      (∀ value, Lexeme.Valid ⟨kind, value⟩ ↔ value ≠ [] ∧ ∀ c ∈ value, members.contains c = true) →
      (∀ c, kind.continuesWith c = members.contains c) → Suits ⟨.run members, .run kind⟩
  | lineComment : Suits ⟨.literal lineOpening, .lineComment⟩
  | blockComment : Suits ⟨.literal blockOpening, .blockComment⟩

/-- A literal is taken whole. -/
private theorem fixed_takes_iff {kind : Kind} {text : Text}
    (hvalid : ∀ value, Lexeme.Valid ⟨kind, value⟩ ↔ value = text)
    (hends : ∀ c, kind.continuesWith c = false) (rest : Text) (count : Nat) :
    text <+: rest ∧ some text.length = some count ↔ kind.Heads rest count := by
  refine ⟨fun htaken => ?_, fun hheads => ?_⟩
  · obtain ⟨⟨after, hrest⟩, hcount⟩ := htaken
    exact ⟨text, after, hrest.symm, Option.some.inj hcount, (hvalid text).mpr rfl, fun c _ => hends c⟩
  · obtain ⟨value, after, hrest, hcount, hvalue, -⟩ := hheads
    obtain rfl := (hvalid value).mp hvalue
    exact ⟨⟨after, hrest.symm⟩, congrArg some hcount⟩

/-- A run is taken up to the first character outside its class. -/
private theorem run_takes_iff {kind : Kind} {members : CharClass}
    (hvalid : ∀ value, Lexeme.Valid ⟨kind, value⟩ ↔ value ≠ [] ∧ ∀ c ∈ value, members.contains c = true)
    (hends : ∀ c, kind.continuesWith c = members.contains c) (rest : Text) (count : Nat) :
    (∃ c ∈ rest.head?, members.contains c = true) ∧ some (rest.takeWhile members.contains).length = some count ↔
      kind.Heads rest count := by
  refine ⟨fun htaken => ?_, fun hheads => ?_⟩
  · obtain ⟨⟨c, hc, hmember⟩, hcount⟩ := htaken
    obtain ⟨after, hrest, hmembers, hstops⟩ := Text.takeWhile_eq_iff.mp (rfl : rest.takeWhile members.contains = _)
    refine ⟨_, after, hrest, Option.some.inj hcount, (hvalid _).mpr ⟨fun hnil => ?_, hmembers⟩, ?_⟩
    · rw [hrest, hnil] at hc
      rw [hstops c hc] at hmember
      contradiction
    · exact fun d hd => (hends d).trans (hstops d hd)
  · obtain ⟨value, after, rfl, hcount, hvalue, hstops⟩ := hheads
    obtain ⟨hne, hmembers⟩ := (hvalid value).mp hvalue
    have htaken : (value ++ after).takeWhile members.contains = value :=
      Text.takeWhile_eq_iff.mpr ⟨after, rfl, hmembers, fun d hd => (hends d).symm.trans (hstops d hd)⟩
    obtain ⟨c, text, rfl⟩ := List.exists_cons_of_ne_nil hne
    exact ⟨⟨c, rfl, hmembers c List.mem_cons_self⟩, by rw [htaken, hcount]⟩

/-- A line comment is taken up to the end of its line. -/
private theorem lineComment_takes_iff (rest : Text) (count : Nat) :
    lineOpening <+: rest ∧ some (rest.takeWhile Text.isInline).length = some count ↔
      Kind.comment.Heads rest count := by
  have hopening : ∀ c ∈ lineOpening, Text.isInline c = true := List.all_eq_true.mp (by decide)
  refine ⟨fun htaken => ?_, fun hheads => ?_⟩
  · obtain ⟨⟨tail, rfl⟩, hcount⟩ := htaken
    rw [List.takeWhile_append_of_pos hopening] at hcount
    obtain ⟨after, htail, hinline, hstops⟩ := Text.takeWhile_eq_iff.mp (rfl : tail.takeWhile Text.isInline = _)
    refine ⟨_, after, ?_, Option.some.inj hcount, ⟨_, rfl, hinline⟩, hstops⟩
    rw [List.append_assoc, ← htail]
  · obtain ⟨value, after, rfl, hcount, ⟨body, hvalue, hinline⟩, hstops⟩ := hheads
    obtain rfl : value = lineOpening ++ body := hvalue
    have hall : ∀ c ∈ lineOpening ++ body, Text.isInline c = true := by
      intro c hc
      rcases List.mem_append.mp hc with hc | hc
      · exact hopening c hc
      · exact hinline c hc
    have htaken := Text.takeWhile_eq_iff.mpr ⟨after, rfl, hall, hstops⟩
    exact ⟨⟨body ++ after, (List.append_assoc _ _ _).symm⟩, by rw [htaken, hcount]⟩

/-- A block comment is taken up to the end of its first closing. -/
private theorem blockComment_takes_iff (rest : Text) (count : Nat) :
    blockOpening <+: rest ∧ Handler.closing? blockOpening.length (rest.drop blockOpening.length) = some count ↔
      Kind.blockComment.Heads rest count := by
  refine ⟨fun htaken => ?_, fun hheads => ?_⟩
  · obtain ⟨⟨tail, rfl⟩, hclosing⟩ := htaken
    rw [List.drop_left, Handler.closing?_eq_some_iff] at hclosing
    obtain ⟨body, after, rfl, hbody, hcount⟩ := hclosing
    refine ⟨blockOpening ++ body ++ blockClosing, after, by simp, ?_, ⟨body, rfl, hbody⟩, fun _ _ => rfl⟩
    rw [List.length_append, List.length_append, hcount]
  · obtain ⟨value, after, rfl, hcount, ⟨body, hvalue, hbody⟩, -⟩ := hheads
    obtain rfl : value = blockOpening ++ body ++ blockClosing := hvalue
    refine ⟨⟨body ++ blockClosing ++ after, by simp⟩, ?_⟩
    rw [List.append_assoc, List.append_assoc, List.drop_left, Handler.closing?_eq_some_iff]
    rw [List.length_append, List.length_append] at hcount
    exact ⟨body, after, (List.append_assoc _ _ _).symm, hbody, hcount⟩

/-- A rule applies and finds an end exactly where a lexeme of its kind stands that ends there. -/
theorem applies_and_extent?_iff {rule : Rule} (hsuits : rule.Suits) (rest : Text) (count : Nat) :
    rule.applies rest = true ∧ rule.extent? rest = some count ↔ rule.kind.Heads rest count := by
  rw [applies_iff_opens]
  cases hsuits with
  | fixed hvalid hends => exact fixed_takes_iff hvalid hends rest count
  | @run kind members hvalid hends =>
    rw [extent?, Handler.extent?, Pattern.elim_find?_run]
    exact run_takes_iff hvalid hends rest count
  | lineComment => exact lineComment_takes_iff rest count
  | blockComment => exact blockComment_takes_iff rest count

end Rule

end LkLexer
