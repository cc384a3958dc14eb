import LkLexer.Text.Basic

/-!
# The options of the command

Each option has a long name and a letter.
-/

namespace LkLexer.Command

/-- The options of the command. -/
inductive Switch where
  | version
  | tokens
  | help
deriving DecidableEq

namespace Switch

/-- The long name of an option. -/
def name : Switch → Text
  | version => "version".toList
  | tokens => "tokens".toList
  | help => "help".toList

/-- The letter of an option. -/
def letter : Switch → Char
  | version => 'v'
  | tokens => 't'
  | help => 'h'

/-- All options, each once. -/
def all : List Switch := [version, tokens, help]

/-- The option with a given long name. -/
def ofName? (text : Text) : Option Switch :=
  all.find? fun switch => switch.name = text

/-- The option with a given letter. -/
def ofLetter? (c : Char) : Option Switch :=
  all.find? fun switch => switch.letter = c

/-- An option as it is written out. -/
def long (switch : Switch) : Text :=
  "--".toList ++ switch.name

/-- A name is that of an option as it is written. -/
theorem ofName?_eq_some_iff (text : Text) (switch : Switch) : ofName? text = some switch ↔ text = switch.name := by
  refine ⟨fun hfound => ?_, fun hname => ?_⟩
  · have hname : switch.name = text := by simpa using List.find?_some hfound
    exact hname.symm
  · subst hname
    cases switch <;> decide

/-- The letter of an option is found. -/
theorem ofLetter?_letter (switch : Switch) : ofLetter? switch.letter = some switch := by
  cases switch <;> rfl

end Switch

end LkLexer.Command
