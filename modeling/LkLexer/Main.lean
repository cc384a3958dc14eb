import LkLexer.Command.Arguments

/-!
# The lk command

Reads the file that the arguments ask for, if they ask for one, and prints the outcome.
-/

open LkLexer

namespace LkLexer.Command

/-- A failure of the system to read a file. -/
def readErrorOf : IO.Error → ReadError
  | .noFileOrDirectory .. => .notFound
  | .inappropriateType _ 20 _ => .notADirectory
  | .inappropriateType _ 21 _ => .isADirectory
  | .invalidArgument _ 36 _ => .nameTooLong
  | .permissionDenied .. => .other "Permission denied (os error 13)".toList
  | error => .other error.toString.toList

/-- Fetches the bytes of a file of the system. -/
def fetchFile (path : Text) : IO (Except ReadError ByteArray) := do
  try
    return .ok (← IO.FS.withFile (String.ofList path) .read fun file => file.readBinToEnd)
  catch error =>
    return .error (readErrorOf error)

/-- The exit code of a program that breaks off. -/
def brokenOffCode : UInt32 := 101

end LkLexer.Command

def main (arguments : List String) : IO UInt32 := do
  let log := Command.Log.upTo .warn fun _ => []
  match ← Command.respond Command.parseArguments log Command.fetchFile (arguments.map String.toList) with
  | some outcome =>
    IO.print (String.ofList outcome.stdout)
    IO.eprint (String.ofList outcome.stderr)
    return outcome.code.toUInt32
  | none => return Command.brokenOffCode
