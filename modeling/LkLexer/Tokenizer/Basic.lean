import LkLexer.Cursor.Basic
import LkLexer.LexError
import LkLexer.Rule.Basic
import LkLexer.Token.Basic

/-!
# A tokenizer at work

The state of a tokenizer is its cursor, the tokens recorded so far and the label that their positions bear. A
rule that applies takes the characters of its token and records it, or finds that the token is never closed;
either way it leaves a tokenizer behind. Tokens can also be recorded by hand, either ready made or from an earlier
place up to the cursor; recording never moves the cursor. Main statements: recording from a place cuts the token
out of the source or leaves everything as it is (`recordFrom_eq`), taking characters records what the source holds
between the two positions of the cursor (`recordFrom_advance`), and a rule that makes progress leaves less to do
(`length_rest_lt_of_apply`).
-/

namespace LkLexer

/-- The label of a source that was given none. -/
def defaultLabel : Text := "shell".toList

/-- A cursor over a labelled source, and the tokens recorded so far. -/
structure Tokenizer where
  label : Text
  cursor : Cursor
  tokens : Array Token

namespace Tokenizer

/-- How a tokenizer ends its work: with or without an error, and in which state. -/
abbrev Ending := EStateM.Result LexError Tokenizer Unit

/-- A tokenizer before the first character of a source. -/
def start (source : Text) (label? : Option Text) : Tokenizer :=
  ⟨label?.getD defaultLabel, Cursor.start source, #[]⟩

/-- Moves the cursor and records nothing. -/
def advance (state : Tokenizer) (count : Nat) : Tokenizer :=
  { state with cursor := state.cursor.advance count }

/-- Records a token as it is given. -/
def record (state : Tokenizer) (token : Token) : Tokenizer :=
  { state with tokens := state.tokens.push token }

/-- Records a token from an earlier place of the source up to the cursor; refused if there is no such place. -/
def recordFrom (start : Nat) (kind : Kind) : EStateM Unit Tokenizer Unit := do
  let stop := (← get).cursor.position
  let some value := (← get).cursor.slice? start stop | throw ()
  modify fun state => state.record ⟨⟨kind, value⟩, .between state.label start stop⟩

/-- Takes a number of characters and records them as one token. -/
def take (state : Tokenizer) (count : Nat) (kind : Kind) : Tokenizer :=
  let next := state.advance count
  next.record
    ⟨⟨kind, state.cursor.rest.take count⟩, .between state.label state.cursor.position next.cursor.position⟩

/-- A fault found at the cursor. -/
def faultHere (state : Tokenizer) (fault : Fault) : LexError :=
  ⟨fault, .ofPlace state.label state.cursor.position⟩

/-- Follows a rule that applies: takes its token, or finds at the end of the source that it is not closed. -/
def apply (state : Tokenizer) (rule : Rule) : Ending :=
  match rule.extent? state.cursor.rest with
  | some count => .ok () (state.take count rule.kind)
  | none =>
    let left := state.advance state.cursor.rest.length
    .error (left.faultHere .unterminatedBlockComment) left

/-- What recording from a place comes to: one more token, cut out of the source, or a refusal that changes nothing. -/
theorem recordFrom_eq (state : Tokenizer) (start : Nat) (kind : Kind) :
    recordFrom start kind state =
      match state.cursor.slice? start state.cursor.position with
      | some value =>
        .ok () (state.record ⟨⟨kind, value⟩, .between state.label start state.cursor.position⟩)
      | none => .error () state := by
  change (match state.cursor.slice? start state.cursor.position with
    | some value => modify fun last => last.record ⟨⟨kind, value⟩, .between last.label start state.cursor.position⟩
    | _ => throw () : EStateM Unit Tokenizer Unit) state = _
  cases state.cursor.slice? start state.cursor.position <;> rfl

/-- What is left after taking characters. -/
theorem rest_take (state : Tokenizer) (count : Nat) (kind : Kind) :
    (state.take count kind).cursor.rest = state.cursor.rest.drop count :=
  Cursor.rest_advance state.cursor count

/-- A rule that applies and makes progress leaves fewer characters than there were. -/
theorem length_rest_lt_of_apply {state next : Tokenizer} {rule : Rule} (hprogresses : rule.Progresses)
    (hrest : state.cursor.rest ≠ []) (happlies : rule.applies state.cursor.rest = true)
    (happly : state.apply rule = .ok () next) : next.cursor.rest.length < state.cursor.rest.length := by
  unfold apply at happly
  split at happly
  · next count hextent =>
    cases happly
    have hpos := hprogresses _ _ happlies hextent
    have hlength := List.length_pos_iff.2 hrest
    rw [rest_take, List.length_drop]
    omega
  · cases happly

end Tokenizer

end LkLexer
