import LkLexer.Proofs.Tiling
import Mathlib.Data.List.Forall2

/-!
# Labels

The label of a source goes into both positions of each token and into that of an error and decides nothing else: under
another label a source has the same result, except that its positions bear that label (`tokenize_eq_relabel`). As
tokens hold all characters of their source, the result of an accepted source tells the source, and the label
as soon as there is a token to bear it. Main statement: both, for all sources and labels
(`agrees_tokenize_and_same_iff`).
-/

namespace LkLexer

/-- The tokens are of the same kind, with the same characters in the same range of bytes. -/
structure Token.Agrees (token other : Token) : Prop where
  kind : token.kind = other.kind
  value : token.value = other.value
  start : token.start = other.start
  stop : token.stop = other.stop

/-- Two results are the same but for the labels of their positions: tokens that agree one by one, or the same fault
at the same offset. -/
inductive LexResult.Agrees : LexResult → LexResult → Prop
  | accepted {tokens others : List Token} :
    List.Forall₂ Token.Agrees tokens others → LexResult.Agrees (.ok tokens) (.ok others)
  | refused {error other : LexError} :
    error.fault = other.fault → error.position.offset = other.position.offset →
    LexResult.Agrees (.error error) (.error other)

/-- All positions of a result bear a label: the start and the end of every token, or that of the error. -/
def LexResult.Bears (label : Text) : LexResult → Prop
  | .ok tokens => ∀ token ∈ tokens, token.span.start.label = label ∧ token.span.stop.label = label
  | .error error => error.position.label = label

/-- A position with another label. -/
def Position.relabel (label : Text) (position : Position) : Position :=
  { position with label := label }

/-- A token whose positions bear a label. -/
def Token.relabel (label : Text) (token : Token) : Token :=
  { token with span := ⟨token.span.start.relabel label, token.span.stop.relabel label⟩ }

/-- An error whose position bears a label. -/
def LexError.relabel (label : Text) (error : LexError) : LexError :=
  { error with position := error.position.relabel label }

/-- A result whose positions bear a label. -/
def LexResult.relabel (label : Text) : LexResult → LexResult
  | .ok tokens => .ok (tokens.map (Token.relabel label))
  | .error error => .error (error.relabel label)

/-- A label is not part of a lexeme. -/
theorem Token.lexemes_map_relabel (label : Text) (tokens : List Token) :
    lexemes (tokens.map (relabel label)) = lexemes tokens := by
  rw [lexemes, List.map_map]
  rfl

/-- Lexemes take up the same places whatever their label is. -/
theorem Token.map_relabel_layOut (label other : Text) (start : Nat) (lexemes : List Lexeme) :
    (layOut label start lexemes).map (relabel other) = layOut other start lexemes := by
  induction lexemes generalizing start with
  | nil => rfl
  | cons lexeme later ih =>
    rw [layOut, List.map_cons, ih]
    rfl

/-- Tokens agree with themselves under another label. -/
theorem Token.forall₂_agrees_map_relabel (label : Text) (tokens : List Token) :
    List.Forall₂ Agrees tokens (tokens.map (relabel label)) := by
  rw [List.forall₂_map_right_iff, List.forall₂_same]
  exact fun token _ => ⟨rfl, rfl, rfl, rfl⟩

/-- A result agrees with itself under another label. -/
theorem LexResult.agrees_relabel (label : Text) (result : LexResult) : result.Agrees (result.relabel label) := by
  cases result with
  | ok tokens => exact .accepted (Token.forall₂_agrees_map_relabel label tokens)
  | error error => exact .refused rfl rfl

/-- Under a label, all positions of a result bear it. -/
theorem LexResult.bears_relabel (label : Text) (result : LexResult) : (result.relabel label).Bears label := by
  cases result with
  | ok tokens =>
    intro token hmem
    obtain ⟨other, -, rfl⟩ := List.mem_map.mp hmem
    exact ⟨rfl, rfl⟩
  | error error => rfl

/-- A source has the same result under every label, except that its positions bear the label given. -/
theorem tokenize_eq_relabel (source : Text) (label? other? : Option Text) :
    tokenize source other? = (tokenize source label?).relabel (other?.getD defaultLabel) := by
  obtain ⟨lexemes, rest, rfl, hapart, rfl | ⟨fault, hblocks⟩⟩ := exists_division source
  · have harranged := (Lexeme.setApart_nil_iff lexemes).mp hapart
    rw [List.append_nil, tokenize_joined harranged, tokenize_joined harranged, LexResult.relabel,
      Token.map_relabel_layOut]
  · rw [tokenize_joined_append hapart hblocks, tokenize_joined_append hapart hblocks]
    rfl

section Labelled

variable {source other : Text} {label? other? : Option Text} {tokens others : List Token}

/-- All positions of a result bear the label of the source, which is the default one if none is given. -/
theorem bears_tokenize (source : Text) (label? : Option Text) :
    (tokenize source label?).Bears (label?.getD defaultLabel) := by
  rw [tokenize_eq_relabel source label? label?]
  exact LexResult.bears_relabel _ _

/-- A source is accepted without tokens exactly when it is empty. -/
theorem eq_nil_iff_of_tokenize_eq_ok (hok : tokenize source label? = .ok tokens) : tokens = [] ↔ source = [] := by
  obtain ⟨lexemes, harranged, rfl, rfl⟩ := tokenize_eq_ok_iff.mp hok
  exact Token.layOut_eq_nil_iff fun lexeme hmem => harranged.valid_of_mem hmem

/-- Accepted sources have the same tokens exactly when they are the same, under the same label unless they are
empty. -/
theorem eq_iff_of_tokenize_eq_ok (hok : tokenize source label? = .ok tokens)
    (hother : tokenize other other? = .ok others) :
    tokens = others ↔ source = other ∧ (source = [] ∨ label?.getD defaultLabel = other?.getD defaultLabel) := by
  refine ⟨fun heq => ?_, fun hsame => ?_⟩
  · subst heq
    have hsources : source = other := by
      rw [← joined_lexemes_of_tokenize_eq_ok hok, ← joined_lexemes_of_tokenize_eq_ok hother]
    refine ⟨hsources, ?_⟩
    have hbears := bears_tokenize source label?
    have hbears' := bears_tokenize other other?
    rw [hok] at hbears
    rw [hother] at hbears'
    cases tokens with
    | nil => exact Or.inl ((eq_nil_iff_of_tokenize_eq_ok hok).mp rfl)
    | cons token later =>
      have hmem : token ∈ token :: later := List.mem_cons_self
      exact Or.inr ((hbears token hmem).1.symm.trans (hbears' token hmem).1)
  · obtain ⟨rfl, hempty | hlabels⟩ := hsame
    · rw [(eq_nil_iff_of_tokenize_eq_ok hok).mpr hempty, (eq_nil_iff_of_tokenize_eq_ok hother).mpr hempty]
    · have hresults : tokenize source label? = tokenize source other? := by
        rw [tokenize_eq_relabel source label? label?, tokenize_eq_relabel source label? other?, hlabels]
      exact Except.ok.inj (hok.symm.trans (hresults.trans hother))

/-- Under all labels a source has results that agree in everything else, and all their positions bear the label that
is given, or the default one. The results of two accepted sources are the same exactly when the sources are, and
the labels too unless the sources are empty. -/
theorem agrees_tokenize_and_same_iff (source : Text) (label? : Option Text) :
    (∀ other?, (tokenize source label?).Agrees (tokenize source other?)) ∧
      (tokenize source label?).Bears (label?.getD defaultLabel) ∧
      ∀ other other? tokens others, tokenize source label? = .ok tokens → tokenize other other? = .ok others →
        ((tokenize source label?).same (tokenize other other?) = true ↔
          source = other ∧ (source = [] ∨ label?.getD defaultLabel = other?.getD defaultLabel)) := by
  refine ⟨fun other? => ?_, bears_tokenize source label?, fun other other? tokens others hok hother => ?_⟩
  · rw [tokenize_eq_relabel source label? other?]
    exact LexResult.agrees_relabel _ _
  · rw [LexResult.same_iff, hok, hother, Except.ok.injEq]
    exact eq_iff_of_tokenize_eq_ok hok hother

/-- The default label can be given or left out, any other makes the tokens different ones, and without tokens no
label matters. -/
theorem same_tokenize_default_label :
    let source := "a//é".toList
    let tokens (label : Text) : List Token :=
      [⟨⟨.identifier, "a".toList⟩, .between label 0 1⟩, ⟨⟨.comment, "//é".toList⟩, .between label 1 5⟩]
    tokenize source none = .ok (tokens "shell".toList) ∧
      tokenize source (some "shell".toList) = .ok (tokens "shell".toList) ∧
      tokenize source (some "b".toList) = .ok (tokens "b".toList) ∧
      tokenize [] none = .ok [] ∧ tokenize [] (some "b".toList) = .ok [] ∧
      (tokenize source none).same (tokenize source (some "shell".toList)) = true ∧
      ¬(tokenize source none).same (tokenize source (some "b".toList)) = true ∧
      (tokenize [] none).same (tokenize [] (some "b".toList)) = true := by
  intro source tokens
  have hnone : tokenize source none = .ok (tokens "shell".toList) := by decide +kernel
  have hshell : tokenize source (some "shell".toList) = .ok (tokens "shell".toList) := by decide +kernel
  have hother : tokenize source (some "b".toList) = .ok (tokens "b".toList) := by decide +kernel
  have hempty (label? : Option Text) : tokenize [] label? = .ok [] := by
    rw [tokenize, tokenizeBy, endingBy, Tokenizer.run_of_rest_eq_nil rfl]
    rfl
  obtain ⟨-, -, hsame⟩ := agrees_tokenize_and_same_iff source none
  obtain ⟨-, -, hsameEmpty⟩ := agrees_tokenize_and_same_iff [] none
  refine ⟨hnone, hshell, hother, hempty none, hempty _, ?_, ?_, ?_⟩
  · exact (hsame source _ _ _ hnone hshell).mpr ⟨rfl, Or.inr (by decide)⟩
  · rw [hsame source _ _ _ hnone hother]
    exact fun hlabels => absurd hlabels.2 (by decide)
  · exact (hsameEmpty [] _ _ _ (hempty none) (hempty _)).mpr ⟨rfl, Or.inl rfl⟩

end Labelled

end LkLexer
