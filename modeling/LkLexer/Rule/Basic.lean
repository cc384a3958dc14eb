import LkLexer.Token.Lexeme

/-!
# Rules for tokens

A rule has two columns: a pattern, which decides at the cursor whether the rule applies, and a handler, which then
finds how far the token goes. Nothing in a rule ties the two to each other. Where they fit, as they do in every
coherent rule, the token of a rule that applies is not empty (`Coherent.progresses`).
-/

namespace LkLexer

/-- What is looked for at the cursor: a literal, or characters of a class. -/
inductive Pattern where
  | literal (text : Text)
  | run (members : CharClass)
deriving DecidableEq

/-- A literal, if a text begins with it. -/
def Pattern.literal? (literal rest : Text) : Option Text :=
  if literal.isPrefixOf rest then some literal else none

/-- What a pattern finds at the beginning of a text: its literal, or as many characters of its class as there are. -/
def Pattern.find? (pattern : Pattern) (rest : Text) : Option Text :=
  match pattern with
  | literal text => literal? text rest
  | run members =>
    match rest.takeWhile members.contains with
    | [] => none
    | found => some found

/-- What is done where a rule applies: as many characters are taken as a text has, or as the pattern finds, or up to
the end of the line, or up to the end of a closing. -/
inductive Handler where
  | fixed (kind : Kind) (text : Text)
  | run (kind : Kind)
  | lineComment
  | blockComment
deriving DecidableEq

namespace Handler

/-- The kind of the tokens of a handler. -/
def kind : Handler → Kind
  | fixed kind _ => kind
  | run kind => kind
  | lineComment => .comment
  | blockComment => .blockComment

/-- The number of characters up to the end of the first closing, added to those already passed. -/
def closing? (passed : Nat) : Text → Option Nat
  | [] => none
  | c :: rest =>
    if blockClosing.isPrefixOf (c :: rest) then some (passed + blockClosing.length)
    else closing? (passed + 1) rest

/-- The number of characters that the token of a handler takes, which may search for the pattern of its rule again;
none when the token is never closed. -/
def extent? (handler : Handler) (pattern : Pattern) (rest : Text) : Option Nat :=
  match handler with
  | fixed _ text => some text.length
  | run _ => some ((pattern.find? rest).elim 0 List.length)
  | lineComment => some (rest.takeWhile Text.isInline).length
  | blockComment => closing? blockOpening.length (rest.drop blockOpening.length)

end Handler

/-- How tokens of one kind are recognized. -/
structure Rule where
  pattern : Pattern
  handler : Handler
deriving DecidableEq

namespace Rule

/-- The rule for comments that may go over several lines. -/
def blockComment : Rule :=
  ⟨.literal blockOpening, .blockComment⟩

/-- The kind of the tokens of a rule. -/
def kind (rule : Rule) : Kind :=
  rule.handler.kind

/-- The characters ahead that decide that a rule applies, if it does. -/
def matched? (rule : Rule) (rest : Text) : Option Text :=
  rule.pattern.find? rest

/-- Whether a rule applies. -/
def applies (rule : Rule) (rest : Text) : Bool :=
  (rule.matched? rest).isSome

/-- The number of characters that the token of a rule takes; none when it is never closed. -/
def extent? (rule : Rule) (rest : Text) : Option Nat :=
  rule.handler.extent? rule.pattern rest

/-- Where the rule applies, its token takes at least one character. -/
def Progresses (rule : Rule) : Prop :=
  ∀ rest count, rule.applies rest = true → rule.extent? rest = some count → 0 < count

/-- The handler of a rule takes what the pattern has found, or goes on from what opens a comment. -/
inductive Coherent : Rule → Prop
  | fixed (kind : Kind) {text : Text} : text ≠ [] → Coherent ⟨.literal text, .fixed kind text⟩
  | run (kind : Kind) (members : CharClass) : Coherent ⟨.run members, .run kind⟩
  | lineComment : Coherent ⟨.literal lineOpening, .lineComment⟩
  | blockComment : Coherent ⟨.literal blockOpening, .blockComment⟩

end Rule

/-- A literal found ahead is the beginning of what lies ahead. -/
theorem Pattern.literal?_eq_some_iff (literal rest found : Text) :
    literal? literal rest = some found ↔ found = literal ∧ ∃ after, literal ++ after = rest := by
  unfold literal?
  split
  · next hprefix =>
    have := List.isPrefixOf_iff_prefix.1 hprefix
    simp only [Option.some.injEq, eq_comm, List.IsPrefix] at this ⊢
    exact ⟨fun h => ⟨h, this⟩, And.left⟩
  · next hprefix =>
    simp only [reduceCtorEq, false_iff]
    intro hboth
    obtain ⟨-, hrest⟩ := hboth
    exact hprefix (List.isPrefixOf_iff_prefix.2 hrest)

/-- A run found ahead has all characters of its class that the text begins with, and at least one. -/
theorem Pattern.find?_run_eq_some_iff (members : CharClass) (rest found : Text) :
    (run members).find? rest = some found ↔ found = rest.takeWhile members.contains ∧ found ≠ [] := by
  rw [find?]
  cases rest.takeWhile members.contains with
  | nil => simp
  | cons c text =>
    rw [Option.some.injEq]
    exact ⟨fun heq => heq ▸ ⟨rfl, List.cons_ne_nil c text⟩, fun hboth => hboth.1.symm⟩

/-- The end that is found lies behind the characters passed and a whole closing. -/
theorem Handler.le_of_closing?_eq_some {passed count : Nat} {rest : Text}
    (hclosing : closing? passed rest = some count) : passed + blockClosing.length ≤ count := by
  induction rest generalizing passed with
  | nil => simp [closing?] at hclosing
  | cons c rest ih =>
    simp only [closing?] at hclosing
    split at hclosing
    · exact Nat.le_of_eq (Option.some.inj hclosing)
    · have := ih hclosing
      omega

namespace Rule

/-- A rule applies where its pattern finds something. -/
theorem applies_iff (rule : Rule) (rest : Text) :
    rule.applies rest = true ↔ ∃ found, rule.matched? rest = some found :=
  Option.isSome_iff_exists

/-- A coherent rule takes at least one character where it applies. -/
theorem Coherent.progresses {rule : Rule} (hcoherent : rule.Coherent) : rule.Progresses := by
  intro rest count happlies hextent
  obtain ⟨found, hfound⟩ := (applies_iff rule rest).mp happlies
  cases hcoherent with
  | fixed kind hne =>
    obtain rfl := Option.some.inj hextent
    exact List.length_pos_iff.2 hne
  | run kind members =>
    have hne := ((Pattern.find?_run_eq_some_iff members rest found).mp hfound).2
    rw [matched?] at hfound
    rw [extent?, Handler.extent?, hfound] at hextent
    obtain rfl := Option.some.inj hextent
    exact List.length_pos_iff.2 hne
  | lineComment =>
    obtain rfl := Option.some.inj hextent
    obtain ⟨-, after, rfl⟩ := (Pattern.literal?_eq_some_iff _ _ _).mp hfound
    simp [lineOpening, Text.isInline]
  | blockComment =>
    have := Handler.le_of_closing?_eq_some hextent
    simp only [blockClosing, blockOpening, List.length_cons, List.length_nil] at this
    omega

end Rule

end LkLexer
