import LkLexer.Command.Outcome
import LkLexer.Command.Usage

/-!
# Command-line arguments

One parser for the arguments of the command, which may be given any other. Arguments are first spelled out: a cluster
of letters stands for one option per letter, and everything after `--` is a file. What they spell is then read from
left to right, up to the first request for help or the first mistake. A file is held back until the next option of the
command, or until the end; that it is empty is a mistake only then.
-/

namespace LkLexer.Command

/-- A part of the arguments: an item, or a mistake in the place of one. -/
abbrev Part := Except Mistake Item

namespace Part

/-- An option written out, from what follows its dashes: options of the command take no value. -/
def ofLong (text : Text) : Part :=
  let name := text.takeWhile (· ≠ '=')
  match Switch.ofName? name, text.dropWhile (· ≠ '=') with
  | none, _ => .error (.unknownName name)
  | some switch, [] => .ok (.option switch)
  | some switch, _ :: value => .error (.unwantedValue switch value)

/-- An option given by its letter. -/
def ofLetter (c : Char) : Part :=
  match Switch.ofLetter? c with
  | none => .error (.unknownLetter c)
  | some switch => .ok (.option switch)

/-- The parts of one argument before `--`. A single dash is a file. -/
def ofArgument : Text → List Part
  | '-' :: '-' :: text => [ofLong text]
  | '-' :: c :: cluster => (c :: cluster).map ofLetter
  | path => [.ok (.file path)]

/-- The parts of arguments, in order. -/
def ofArguments : List Text → List Part
  | [] => []
  | argument :: later =>
    if argument = "--".toList then later.map fun path => .ok (.file path)
    else ofArgument argument ++ ofArguments later

end Part

/-- What reading the arguments comes to. -/
inductive Reading where
  | request (request : Request)
  | help
  | mistake (error : UsageError)
deriving DecidableEq

/-- The arguments read so far: the options in order, the file accepted and the file held back. -/
structure Progress where
  switches : List Switch
  accepted? : Option Text
  held? : Option Text
deriving DecidableEq

namespace Progress

/-- Before any argument. -/
def start : Progress := ⟨[], none, none⟩

/-- The request that the options and the file read so far come to. -/
def request (progress : Progress) : Request :=
  ⟨decide (.version ∈ progress.switches), decide (.tokens ∈ progress.switches),
    progress.accepted?.or progress.held?⟩

/-- Accepts the file that is held back, unless it is empty. -/
def settle (progress : Progress) : Except Reading Progress :=
  match progress.held? with
  | none => .ok progress
  | some [] => .error (.mistake ⟨.emptyFile, .nothing⟩)
  | some path => .ok { progress with accepted? := some path, held? := none }

/-- One more option, unless that ends the reading. -/
def addSwitch (progress : Progress) (switch : Switch) : Except Reading Progress :=
  match progress.settle with
  | .error reading => .error reading
  | .ok settled =>
    if switch = .help then .error .help
    else if switch ∈ settled.switches then .error (.mistake ⟨.repeated switch, .nothing⟩)
    else .ok { settled with switches := settled.switches ++ [switch] }

/-- A file to hold back, unless there is one already. -/
def addFile (progress : Progress) (path : Text) : Except Reading Progress :=
  if progress.request.file?.isSome then .error (.mistake ⟨.unexpectedFile path, .nothing⟩)
  else .ok { progress with held? := some path }

/-- The arguments that the usage of a mistake mentions. A value is refused before the file held back is seen. -/
def givenFor (progress : Progress) : Mistake → Given
  | .unknownName name =>
    let given : Given := ⟨progress.switches, progress.request.file?.isSome⟩
    (Switch.similarTo? name).elim given given.addSwitch
  | .unwantedValue switch _ => Given.addSwitch ⟨progress.switches, progress.accepted?.isSome⟩ switch
  | _ => .nothing

/-- One more part, unless that ends the reading. -/
def add (progress : Progress) : Part → Except Reading Progress
  | .ok (.option switch) => progress.addSwitch switch
  | .ok (.file path) => progress.addFile path
  | .error mistake => .error (.mistake ⟨mistake, progress.givenFor mistake⟩)

/-- The request that the arguments come to when there are no more of them. -/
def finish (progress : Progress) : Reading :=
  match progress.settle with
  | .error reading => reading
  | .ok settled => .request settled.request

end Progress

namespace Reading

/-- Reads parts one after another, up to the first that ends the reading. -/
def ofParts (progress : Progress) : List Part → Reading
  | [] => progress.finish
  | part :: later =>
    match progress.add part with
    | .ok next => ofParts next later
    | .error reading => reading

/-- What arguments come to. -/
def ofArguments (arguments : List Text) : Reading :=
  ofParts Progress.start (Part.ofArguments arguments)

end Reading

/-- What the command prints when asked for help. -/
def helpText : Text :=
  ["Run an lk program",
   "",
   "Usage: lk [OPTIONS] [FILE]",
   "",
   "Arguments:",
   "  [FILE]  Source file to run",
   "",
   "Options:",
   "  -v, --version  Show version information",
   "  -t, --tokens   Print the token stream instead of running the program",
   "  -h, --help     Print help"].flatMap fun text => line text.toList

/-- Parses arguments from left to right. -/
def parseArguments : Parser := fun arguments =>
  match Reading.ofArguments arguments with
  | .request request => .ok request
  | .help => .error ⟨0, helpText, []⟩
  | .mistake error => .error ⟨2, [], error.report⟩

end LkLexer.Command
