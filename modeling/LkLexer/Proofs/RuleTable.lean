import LkLexer.LexError
import LkLexer.Proofs.Recognition
import LkLexer.Rule.Table
import Mathlib.Data.List.Pairwise

/-!
# What the rules of the language find

Every kind of token has a rule, and no two rules apply at one place (`eq_of_applies`), so that the order in
which they are tried decides nothing. A text that is not empty begins with a lexeme that ends where the rest
begins, or with a character that begins no lexeme, or with a comment that is never closed
(`exists_lexeme_or_blocks`).
-/

namespace LkLexer

/-- White space is a newline or a blank. -/
theorem CharClass.isWhiteSpace_eq_false_iff (c : Char) :
    Unicode.isWhiteSpace c = false ↔ c ≠ '\n' ∧ blank.contains c = false := by
  by_cases hc : c = '\n'
  · subst hc
    decide
  · simp [contains, Text.isInline, hc]

/-- A character begins no lexeme: it is of neither class, no bracket and no operator, and the character
behind it does not make it the first half of a comment's opening or of an operator. -/
def StartsNothing (c : Char) (after : Text) : Prop :=
  CharClass.word.contains c = false ∧ Unicode.isWhiteSpace c = false ∧
    c ∉ ['{', '}', '(', ')', ':', '=', '&', '|'] ∧
    (c = '/' → after.head? ≠ some '/' ∧ after.head? ≠ some '*') ∧
    (c = '-' → after.head? ≠ some '>') ∧ (c = '!' → after.head? ≠ some '=')

/-- No token can be taken from the beginning of a text, because of the fault. -/
def Fault.Blocks : Fault → Text → Prop
  | unexpectedCharacter c, rest => ∃ after, rest = c :: after ∧ StartsNothing c after
  | unterminatedBlockComment, rest => ∃ body, rest = blockOpening ++ body ∧ ¬blockClosing <:+: body

namespace Pattern

/-- Two patterns that no text can begin with at once. -/
def excludes : Pattern → Pattern → Bool
  | literal text, literal other => !text.isPrefixOf other && !other.isPrefixOf text
  | literal text, run members => text.head?.any fun c => !members.contains c
  | run members, literal text => text.head?.any fun c => !members.contains c
  | run members, run others => members ≠ others

/-- A literal whose first character is outside the class cannot open a text that begins with the class. -/
theorem not_run_opens_of_literal_opens {text rest : Text} {members : CharClass}
    (hexcludes : (text.head?.any fun c => !members.contains c) = true) (htext : text <+: rest) :
    ¬(run members).Opens rest := by
  intro hopens
  obtain ⟨c, hc, hmember⟩ := hopens
  obtain ⟨after, rfl⟩ := htext
  cases text with
  | nil => simp at hexcludes
  | cons d text =>
    obtain rfl : d = c := Option.some.inj hc
    simp [hmember] at hexcludes

/-- Patterns that exclude each other are not found in front of the same text. -/
theorem not_opens_of_excludes {pattern other : Pattern} (hexcludes : pattern.excludes other = true)
    {rest : Text} (hopens : pattern.Opens rest) : ¬other.Opens rest := by
  cases pattern with
  | literal text =>
    cases other with
    | literal other =>
      intro hother
      rw [excludes, Bool.and_eq_true, Bool.not_eq_true', Bool.not_eq_true'] at hexcludes
      rcases List.prefix_or_prefix_of_prefix hopens hother with hle | hle
      · rw [List.isPrefixOf_iff_prefix.mpr hle] at hexcludes
        cases hexcludes.1
      · rw [List.isPrefixOf_iff_prefix.mpr hle] at hexcludes
        cases hexcludes.2
    | run members => exact not_run_opens_of_literal_opens hexcludes hopens
  | run members =>
    cases other with
    | literal other => exact fun hother => not_run_opens_of_literal_opens hexcludes hother hopens
    | run others =>
      intro hother
      obtain ⟨c, hc, hothers⟩ := hother
      obtain ⟨d, hd, hmembers⟩ := hopens
      obtain rfl := Option.some.inj (hc.symm.trans hd)
      -- Two classes exclude each other only if one is that of words and the other that of blanks.
      cases members with
      | word =>
        cases others with
        | word => exact absurd hexcludes (by decide)
        | blank => exact absurd hothers (by rw [CharClass.blank_contains_of_word_contains hmembers]; decide)
      | blank =>
        cases others with
        | word => exact absurd hmembers (by rw [CharClass.blank_contains_of_word_contains hothers]; decide)
        | blank => exact absurd hexcludes (by decide)

end Pattern

namespace Rule

/-- The patterns of the language exclude one another. -/
theorem pairwise_excludes_table : table.Pairwise fun rule other => rule.pattern.excludes other.pattern = true := by
  decide

/-- No two entries of the table apply at one place. -/
theorem pairwise_not_applies_table (rest : Text) :
    table.Pairwise fun rule other => ¬(rule.applies rest = true ∧ other.applies rest = true) := by
  refine pairwise_excludes_table.imp fun hexcludes hboth => ?_
  rw [applies_iff_opens, applies_iff_opens] at hboth
  exact Pattern.not_opens_of_excludes hexcludes hboth.1 hboth.2

/-- No two rules of the language apply at one place. -/
theorem eq_of_applies {rule other : Rule} (hrule : rule ∈ table) (hother : other ∈ table) {rest : Text}
    (happlies : rule.applies rest = true) (happlies' : other.applies rest = true) : rule = other := by
  let Apart (rule other : Rule) : Prop := ¬(rule.applies rest = true ∧ other.applies rest = true)
  have hsymm : Std.Symm Apart := ⟨fun _ _ hapart hboth => hapart hboth.symm⟩
  have hpairwise : table.Pairwise Apart := pairwise_not_applies_table rest
  by_contra hne
  exact hpairwise.forall hrule hother hne ⟨happlies, happlies'⟩

/-- The first one that applies of some rules of the language is the only one of them. -/
theorem find?_eq_some_iff {rules : List Rule} (hrules : rules ⊆ table) {rule : Rule} {rest : Text} :
    rules.find? (·.applies rest) = some rule ↔ rule ∈ rules ∧ rule.applies rest = true := by
  refine ⟨fun hfind => ?_, fun hrule => ?_⟩
  · have happlies := List.find?_some hfind
    exact ⟨List.mem_of_find?_eq_some hfind, happlies⟩
  · obtain ⟨hrule, happlies⟩ := hrule
    cases hfind : rules.find? (·.applies rest) with
    | none => exact absurd happlies (List.find?_eq_none.mp hfind rule hrule)
    | some found =>
      have hfound := List.find?_some hfind
      exact congrArg some (eq_of_applies (hrules (List.mem_of_find?_eq_some hfind)) (hrules hrule) hfound happlies)

/-- The first rule of the language that applies is the only one. -/
theorem find?_table_eq_some_iff {rule : Rule} {rest : Text} :
    table.find? (·.applies rest) = some rule ↔ rule ∈ table ∧ rule.applies rest = true :=
  find?_eq_some_iff (List.Subset.refl table)

/-- Every kind of token has a rule. -/
theorem exists_mem_table (kind : Kind) : ∃ rule ∈ table, rule.kind = kind := by
  cases kind <;> decide

/-- Each rule of the language suits the lexemes of its kind. -/
theorem suits_of_mem_table {rule : Rule} (hrule : rule ∈ table) : rule.Suits := by
  simp only [table, List.mem_cons, List.not_mem_nil, or_false] at hrule
  rcases hrule with rfl | rfl | rfl | rfl | rfl | rfl | rfl | rfl | rfl | rfl | rfl | rfl | rfl | rfl | rfl <;>
    constructor <;> intro _ <;> rfl

/-- No rule applies exactly where the first character begins no lexeme. -/
theorem find?_table_eq_none_iff (c : Char) (after : Text) :
    table.find? (·.applies (c :: after)) = none ↔ StartsNothing c after := by
  rw [StartsNothing, CharClass.isWhiteSpace_eq_false_iff]
  simp only [List.find?_eq_none, table, List.mem_cons, List.not_mem_nil, or_false, forall_eq_or_imp, forall_eq,
    applies_iff_opens, Pattern.Opens, List.cons_prefix_cons, List.nil_prefix,
    Text.singleton_prefix_iff, List.head?_cons, Option.mem_def, Option.some.injEq, exists_eq_left', and_true, not_and,
    Bool.not_eq_true, not_or]
  grind

/-- A lexeme that ends where the rest of a text begins is taken by the first rule that applies. -/
theorem exists_find?_table_append {lexeme : Lexeme} {after : Text} (hvalid : lexeme.Valid)
    (hstops : lexeme.kind.StopsBefore after) :
    ∃ rule, table.find? (·.applies (lexeme.value ++ after)) = some rule ∧ rule.kind = lexeme.kind ∧
      rule.extent? (lexeme.value ++ after) = some lexeme.value.length := by
  obtain ⟨rule, hrule, hkind⟩ := exists_mem_table lexeme.kind
  have hheads : rule.kind.Heads (lexeme.value ++ after) lexeme.value.length := by
    rw [hkind]
    exact ⟨lexeme.value, after, rfl, rfl, hvalid, hstops⟩
  obtain ⟨happlies, hextent⟩ := (applies_and_extent?_iff (suits_of_mem_table hrule) _ _).mpr hheads
  exact ⟨rule, find?_table_eq_some_iff.mpr ⟨hrule, happlies⟩, hkind, hextent⟩

/-- The rule for block comments is the only one whose token may be without end. -/
theorem eq_blockComment_of_extent?_eq_none {rule : Rule} (hcoherent : rule.Coherent) {rest : Text}
    (hextent : rule.extent? rest = none) : rule = blockComment := by
  cases hcoherent with
  | blockComment => rfl
  | _ => exact absurd hextent (by simp [extent?, Handler.extent?])

/-- Behind an opening no end is found exactly when there is no closing. -/
theorem extent?_blockComment_eq_none_iff (body : Text) :
    blockComment.extent? (blockOpening ++ body) = none ↔ ¬blockClosing <:+: body := by
  change Handler.closing? _ ((blockOpening ++ body).drop blockOpening.length) = none ↔ _
  rw [List.drop_left, Handler.closing?_eq_none_iff]

/-- Where a comment is opened and never closed, the first rule that applies finds no end. -/
theorem exists_find?_table_of_not_closed {body : Text} (hbody : ¬blockClosing <:+: body) :
    ∃ rule, table.find? (·.applies (blockOpening ++ body)) = some rule ∧
      rule.extent? (blockOpening ++ body) = none := by
  have happlies : blockComment.applies (blockOpening ++ body) = true :=
    (applies_iff_opens blockComment _).mpr (List.prefix_append blockOpening body)
  refine ⟨blockComment, find?_table_eq_some_iff.mpr ⟨by decide, happlies⟩, ?_⟩
  exact (extent?_blockComment_eq_none_iff body).mpr hbody

/-- A text that is not empty begins with a lexeme that ends where the rest begins, or with a fault. -/
theorem exists_lexeme_or_blocks {rest : Text} (hrest : rest ≠ []) :
    (∃ lexeme : Lexeme, ∃ after, rest = lexeme.value ++ after ∧ lexeme.Valid ∧ lexeme.kind.StopsBefore after) ∨
      ∃ fault : Fault, fault.Blocks rest := by
  cases hfind : table.find? (·.applies rest) with
  | none =>
    obtain ⟨c, after, rfl⟩ := List.exists_cons_of_ne_nil hrest
    exact Or.inr ⟨.unexpectedCharacter c, after, rfl, (find?_table_eq_none_iff c after).mp hfind⟩
  | some rule =>
    obtain ⟨hrule, happlies⟩ := find?_table_eq_some_iff.mp hfind
    cases hextent : rule.extent? rest with
    | none =>
      obtain rfl := eq_blockComment_of_extent?_eq_none (coherent_of_mem_table hrule) hextent
      obtain ⟨body, rfl⟩ := (applies_iff_opens blockComment rest).mp happlies
      exact Or.inr ⟨.unterminatedBlockComment, body, rfl, (extent?_blockComment_eq_none_iff body).mp hextent⟩
    | some count =>
      obtain ⟨value, after, hvalue, -, hvalid, hstops⟩ :=
        (applies_and_extent?_iff (suits_of_mem_table hrule) rest count).mp ⟨happlies, hextent⟩
      exact Or.inl ⟨⟨rule.kind, value⟩, after, hvalue, hvalid, hstops⟩

end Rule

end LkLexer
