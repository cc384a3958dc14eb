import LkLexer.Command.Switch

/-!
# Requests, and how arguments come to them

The arguments of the command are read by a parser, about which nothing is assumed but two laws. Where they do not come
to a request, help is printed with success or a complaint with code 2 (`Parser.Stops`). They come to one when they are
read in turn, each for what it stands for: an option that was not given before, letters that stand for several
options, or a file, if it is the first one and has a name (`Parser.ReadsInTurn`). Of arguments behind `--` the second
law says nothing.
-/

namespace LkLexer.Command

/-- The exit code of the command and what it prints. -/
structure Outcome where
  code : Nat
  stdout : Text
  stderr : Text
deriving DecidableEq

/-- What the command is asked to do. -/
structure Request where
  version : Bool
  tokens : Bool
  file? : Option Text
deriving DecidableEq

/-- What a part of an argument stands for. -/
inductive Item where
  | option (switch : Switch)
  | file (path : Text)
deriving DecidableEq

/-- What an argument stands for: an option by its name, options by their letters, or a file. A single dash is a file. -/
def Item.ofArgument? : Text → Option (List Item)
  | '-' :: '-' :: name => (Switch.ofName? name).map fun switch => [option switch]
  | '-' :: c :: letters => (c :: letters).mapM fun letter => (Switch.ofLetter? letter).map option
  | path => some [file path]

namespace Request

/-- The request of no arguments. -/
def nothing : Request := ⟨false, false, none⟩

/-- A request with one more item. Help is none, and neither is an option for the second time, a second file or a file
without a name. -/
def withItem? (request : Request) : Item → Option Request
  | .option .version => if request.version then none else some { request with version := true }
  | .option .tokens => if request.tokens then none else some { request with tokens := true }
  | .option .help => none
  | .file path => if path = [] ∨ request.file?.isSome then none else some { request with file? := some path }

/-- A request with one more argument, item by item. -/
def withArgument? (request : Request) (argument : Text) : Option Request := do
  (← Item.ofArgument? argument).foldlM withItem? request

end Request

/-- A way to read the arguments of the command: to a request, or to what is printed instead. -/
abbrev Parser := List Text → Except Outcome Request

/-- Arguments that do not come to a request are answered with help on the first output, or with a complaint on the
second one and code 2. -/
def Parser.Stops (parse : Parser) : Prop :=
  ∀ arguments outcome, parse arguments = .error outcome →
    (outcome.code = 0 ∧ outcome.stderr = []) ∨ (outcome.code = 2 ∧ outcome.stdout = [] ∧ outcome.stderr ≠ [])

/-- As long as no argument ends the options, arguments come to a request one after another: no arguments to the request
of nothing, and one more argument to the request with that argument. -/
structure Parser.ReadsInTurn (parse : Parser) : Prop where
  nil : parse [] = .ok .nothing
  snoc : ∀ front argument request, "--".toList ∉ front ++ [argument] →
    (parse (front ++ [argument]) = .ok request ↔
      ∃ earlier, parse front = .ok earlier ∧ earlier.withArgument? argument = some request)

end LkLexer.Command
