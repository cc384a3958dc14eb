import LkLexer.Tokenizer.Basic

/-!
# A tokenizer driven by hand

A step advances the cursor or records a token. Whether it is accepted or refused, it leaves a tokenizer, from which
the steps after it go on.
-/

namespace LkLexer.Tokenizer

/-- What can be asked of a tokenizer. -/
inductive Step where
  | advance (count : Nat)
  | recordFrom (start : Nat) (kind : Kind)
  | record (token : Token)
deriving DecidableEq

/-- What a step does with a tokenizer. -/
def Step.perform : Step → EStateM Unit Tokenizer Unit
  | advance count => modify (·.advance count)
  | recordFrom start kind => Tokenizer.recordFrom start kind
  | record token => modify (·.record token)

/-- For each of some steps in order: whether it was accepted, and the tokenizer that it left. -/
def trace (state : Tokenizer) : List Step → List (Bool × Tokenizer)
  | [] => []
  | step :: later =>
    match step.perform state with
    | .ok () next => (true, next) :: next.trace later
    | .error () left => (false, left) :: left.trace later

end LkLexer.Tokenizer
