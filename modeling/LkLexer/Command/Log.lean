import LkLexer.Token.Basic

/-!
# The log

At work the command reports events to a log, which writes on the second output what it is set to show. The events are
all of minor levels. A log that shows warnings and errors only, as it is set unless the user asks for more, writes
nothing for them (`Log.FromWarnings`).
-/

namespace LkLexer.Command

/-- How severe an event is. -/
inductive Level where
  | error
  | warn
  | info
  | debug
  | trace
deriving DecidableEq

/-- The rank of a level, from the most severe one on. -/
def Level.rank : Level → Nat
  | error => 0
  | warn => 1
  | info => 2
  | debug => 3
  | trace => 4

/-- What is reported to the log: that a token is recorded, that a source is used up, and that a file is run. -/
inductive Event where
  | recorded (token : Token)
  | tokenized (label : Text) (count : Nat)
  | ran (count : Nat)
deriving DecidableEq

/-- The level of an event. -/
def Event.level : Event → Level
  | recorded _ => .trace
  | tokenized _ _ => .debug
  | ran _ => .info

/-- What a log writes for an event. -/
abbrev Log := Event → Text

namespace Log

/-- A log shows warnings and errors only. -/
def FromWarnings (log : Log) : Prop :=
  ∀ event : Event, Level.warn.rank < event.level.rank → log event = []

/-- A log that shows a level and what is more severe, in given words. -/
def upTo (level : Level) (words : Event → Text) : Log :=
  fun event => if event.level.rank ≤ level.rank then words event else []

/-- A log that is set to warnings shows warnings and errors only. -/
theorem fromWarnings_upTo (words : Event → Text) : (upTo .warn words).FromWarnings :=
  fun _ hminor => if_neg (Nat.not_le.mpr hminor)

/-- There are no warnings and errors among the events. -/
theorem FromWarnings.eq_nil {log : Log} (hlog : log.FromWarnings) (event : Event) : log event = [] := by
  have hminor : Level.warn.rank < event.level.rank := by
    cases event <;> simp [Event.level, Level.rank]
  exact hlog event hminor

end Log

end LkLexer.Command
