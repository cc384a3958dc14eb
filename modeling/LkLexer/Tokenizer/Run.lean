import LkLexer.Rule.Table
import LkLexer.Tokenizer.Basic

/-!
# The tokens of a source

At every position the first rule that applies takes its token, until the source is used up. A character at
which no rule applies ends the run, as does a comment that is never closed; then no tokens are given at all.
-/

namespace LkLexer

/-- What becomes of a source: its tokens, or what is wrong with it. -/
abbrev LexResult := Except LexError (List Token)

/-- Whether two results are the same, positions with their labels included. -/
def LexResult.same : LexResult → LexResult → Bool
  | .ok tokens, .ok others => tokens == others
  | .error error, .error other => error == other
  | _, _ => false

/-- Results are the same only when they are equal. -/
theorem LexResult.same_iff (result other : LexResult) : result.same other = true ↔ result = other := by
  cases result <;> cases other <;> simp [same]

namespace Tokenizer

/-- Follows the first rule that applies until the source is used up. -/
def run (rules : List Rule) (hrules : ∀ rule ∈ rules, rule.Progresses) (state : Tokenizer) : Ending :=
  match _hrest : state.cursor.rest with
  | [] => .ok () state
  | character :: _ =>
    match _hrule : rules.find? (·.applies state.cursor.rest) with
    | none => .error (state.faultHere (.unexpectedCharacter character)) state
    | some rule =>
      match _happly : state.apply rule with
      | .ok () next => next.run rules hrules
      | .error error left => .error error left
termination_by state.cursor.rest.length
decreasing_by
  have happlies : rule.applies state.cursor.rest = true := by simpa using List.find?_some _hrule
  have hne : state.cursor.rest ≠ [] := _hrest ▸ List.cons_ne_nil _ _
  exact length_rest_lt_of_apply (hrules rule (List.mem_of_find?_eq_some _hrule)) hne happlies _happly

/-- The result of a tokenizer that has ended its work. The tokens recorded before an error are not given. -/
def Ending.result : Ending → LexResult
  | .ok () last => .ok last.tokens.toList
  | .error error _ => .error error

/-- The tokens that were recorded, with or without an error behind them. -/
def Ending.recorded : Ending → List Token
  | .ok () last => last.tokens.toList
  | .error _ left => left.tokens.toList

end Tokenizer

/-- How a tokenizer with given rules ends its work on a source. -/
def endingBy (rules : List Rule) (hrules : ∀ rule ∈ rules, rule.Progresses) (source : Text) (label? : Option Text) :
    Tokenizer.Ending :=
  (Tokenizer.start source label?).run rules hrules

/-- The tokens of a source by given rules. -/
def tokenizeBy (rules : List Rule) (hrules : ∀ rule ∈ rules, rule.Progresses) (source : Text) (label? : Option Text) :
    LexResult :=
  (endingBy rules hrules source label?).result

/-- The tokens of a source by the rules of the language. -/
def tokenize (source : Text) (label? : Option Text) : LexResult :=
  tokenizeBy Rule.table (fun _ => Rule.progresses_of_mem_table) source label?

end LkLexer
