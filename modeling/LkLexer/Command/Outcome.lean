import LkLexer.Command.Log
import LkLexer.Command.Path
import LkLexer.Command.Request
import LkLexer.Diagnostic
import LkLexer.Tokenizer.Run

/-!
# What the command does

The command answers with an exit code and what it prints on its two outputs. What parsing comes to that does not end
in a request needs no file, and neither does the version. A run reads its file and tokenizes it; as programs are not
evaluated yet, running one prints its own text, put together again from its tokens. The command is given a parser
for its arguments, a log for its events and a way to fetch files, which may be one that acts on the system.
-/

namespace LkLexer.Command

/-- Why a file could not be read. -/
inductive ReadError where
  | notFound
  | notADirectory
  | isADirectory
  | nameTooLong
  | invalidText
  | other (cause : Text)
deriving DecidableEq

/-- The cause of a failure, in the system's words and with its number if it has one. -/
def ReadError.cause : ReadError → Text
  | notFound => "No such file or directory (os error 2)".toList
  | notADirectory => "Not a directory (os error 20)".toList
  | isADirectory => "Is a directory (os error 21)".toList
  | nameTooLong => "File name too long (os error 36)".toList
  | invalidText => "stream did not contain valid UTF-8".toList
  | other cause => cause

/-- The text that bytes encode in UTF-8. A byte order mark is part of the text. -/
def decodeText (content : ByteArray) : Except ReadError Text :=
  match String.fromUTF8? content with
  | some text => .ok text.toList
  | none => .error .invalidText

/-- A text that ends its line. -/
def line (text : Text) : Text :=
  text ++ ['\n']

/-- What the command prints when asked for its version. -/
def versionText : Text :=
  line "lk version 0.1.0".toList

/-- What the command prints when it has nothing to run. -/
def noFileText : Text :=
  line "Error: No file specified.".toList ++ line "Use -h or --help for more information.".toList

/-- What a run prints for its tokens. -/
def printed (listing : Bool) (tokens : List Token) : Text :=
  if listing then tokens.flatMap fun token => line token.listing
  else line (Lexeme.joined (Token.lexemes tokens))

/-- How the tokenizer ends its work on the text of a file. The name of the file is the label. -/
def endingOf (path source : Text) : Tokenizer.Ending :=
  endingBy Rule.table (fun _ => Rule.progresses_of_mem_table) source (Path.fileName? path)

/-- The outcome of running a text: what is logged for the tokens that are recorded, and then the end of the run. There
is none when the diagnostic of an error cannot be rendered. -/
def runText (log : Log) (path : Text) (listing : Bool) (source : Text) : Option Outcome :=
  let ending := endingOf path source
  let recorded := ending.recorded.flatMap fun token => log (.recorded token)
  match ending.result with
  | .ok tokens =>
    let tokenized := log (.tokenized ((Path.fileName? path).getD defaultLabel) tokens.length)
    some ⟨0, printed listing tokens, recorded ++ tokenized ++ log (.ran tokens.length)⟩
  | .error error => (Diagnostic.render? error path source).map fun rendered => ⟨1, [], recorded ++ rendered⟩

/-- The outcome of running a file, from what fetching it gave. -/
def runFile (log : Log) (path : Text) (listing : Bool) (found : Except ReadError ByteArray) : Option Outcome :=
  match found.bind decodeText with
  | .ok source => runText log path listing source
  | .error error => some ⟨1, [], line ("Error: failed to read ".toList ++ path ++ ": ".toList ++ error.cause)⟩

section Respond

variable {m : Type → Type} [Monad m]

/-- The outcome for a request. The version comes before the file. -/
def Request.serve (log : Log) (fetch : Text → m (Except ReadError ByteArray)) (request : Request) :
    m (Option Outcome) :=
  if request.version then pure (some ⟨0, versionText, []⟩)
  else
    match request.file? with
    | none => pure (some ⟨1, [], noFileText⟩)
    | some path => return runFile log path request.tokens (← fetch path)

/-- The outcome of the command on its arguments. -/
def respond (parse : Parser) (log : Log) (fetch : Text → m (Except ReadError ByteArray)) (arguments : List Text) :
    m (Option Outcome) :=
  match parse arguments with
  | .ok request => request.serve log fetch
  | .error outcome => pure (some outcome)

end Respond

end LkLexer.Command
