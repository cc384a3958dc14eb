import LkLexer.Command.Switch
import LkLexer.Text.Similarity

/-!
# Mistakes in the arguments

What can be wrong with the arguments, and what is printed about it: the reason, advice where there is some,
and how the command is used. A name that no option has may be one with a slip in it: then the option with the most
similar name is meant, if it is similar enough. The usage of a mistake in a long option mentions what was given so
far, and the option that was meant; any other usage is the general one.
-/

namespace LkLexer.Command

namespace Switch

/-- A name must be more similar than this to the one that is meant. -/
def similarityBound : Float := 0.7

/-- The more similar of two options to a name; of equally similar ones, the later. -/
def moreSimilar (name : Text) (earlier? : Option Switch) (later : Switch) : Option Switch :=
  match earlier? with
  | none => some later
  | some earlier =>
    if Text.similarity name later.name < Text.similarity name earlier.name then some earlier else some later

/-- The option that a misspelled name stands for, if one is similar enough. -/
def similarTo? (name : Text) : Option Switch :=
  (all.filter fun switch => similarityBound < Text.similarity name switch.name).foldl (moreSimilar name) none

end Switch

/-- What can be wrong with the arguments. -/
inductive Mistake where
  | unknownName (name : Text)
  | unknownLetter (letter : Char)
  | unexpectedFile (path : Text)
  | unwantedValue (switch : Switch) (value : Text)
  | repeated (switch : Switch)
  | emptyFile
deriving DecidableEq

/-- The arguments that a usage mentions: options in the order in which they were given, and maybe a file. -/
structure Given where
  switches : List Switch
  file : Bool
deriving DecidableEq

namespace Given

/-- No arguments. -/
def nothing : Given := ⟨[], false⟩

/-- One more option, if it was not given before. -/
def addSwitch (given : Given) (switch : Switch) : Given :=
  if switch ∈ given.switches then given else { given with switches := given.switches ++ [switch] }

/-- How the command is used with these arguments; without any, how it is used in general. -/
def usage (given : Given) : Text :=
  if given = nothing then "Usage: lk [OPTIONS] [FILE]".toList
  else
    "Usage: lk".toList ++ given.switches.flatMap (fun switch => ' ' :: switch.long) ++
      (if given.file then " <FILE>" else " [FILE]").toList

end Given

/-- A text between single quotes, as it is. -/
def quoted (text : Text) : Text :=
  ['\''] ++ text ++ ['\'']

namespace Mistake

/-- The reason for an argument that nothing accepts. -/
def unexpected (argument : Text) : Text :=
  "unexpected argument ".toList ++ quoted argument ++ " found".toList

/-- What is wrong, in words. -/
def reason : Mistake → Text
  | unknownName name => unexpected ("--".toList ++ name)
  | unknownLetter letter => unexpected ['-', letter]
  | unexpectedFile path => unexpected path
  | unwantedValue switch value =>
    "unexpected value ".toList ++ quoted value ++ " for ".toList ++ quoted switch.long ++
      " found; no more were expected".toList
  | repeated switch =>
    "the argument ".toList ++ quoted switch.long ++ " cannot be used multiple times".toList
  | emptyFile => "a value is required for '[FILE]' but none was supplied".toList

/-- Advice for what looks like an option and may have been meant as a file. -/
def fileTip (argument : Text) : Text :=
  "  tip: to pass ".toList ++ quoted argument ++ " as a value, use ".toList ++ quoted ("-- ".toList ++ argument)

/-- Advice for a misspelled option. -/
def switchTip (switch : Switch) : Text :=
  "  tip: a similar argument exists: ".toList ++ quoted switch.long

/-- Advice, where the mistake is an option that the command does not have. -/
def tip? : Mistake → Option Text
  | unknownName name =>
    match Switch.similarTo? name with
    | some switch => some (switchTip switch)
    | none => some (fileTip ("--".toList ++ name))
  | unknownLetter letter => some (fileTip ['-', letter])
  | _ => none

end Mistake

/-- A mistake, with the arguments that its usage mentions. -/
structure UsageError where
  mistake : Mistake
  given : Given
deriving DecidableEq

namespace UsageError

/-- How the command is used, where that helps with the mistake. -/
def usage? (error : UsageError) : Option Text :=
  if error.mistake = .emptyFile then none else some error.given.usage

/-- What is printed about a mistake: a few paragraphs, apart by empty lines. -/
def report (error : UsageError) : Text :=
  let paragraphs := ["error: ".toList ++ error.mistake.reason] ++ error.mistake.tip?.toList ++
    error.usage?.toList ++ ["For more information, try '--help'.".toList]
  ['\n', '\n'].intercalate paragraphs ++ ['\n']

end UsageError

end LkLexer.Command
