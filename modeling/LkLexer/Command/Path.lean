import LkLexer.Text.Basic

/-!
# Paths

A path leads on by names, between its slashes. The last of them is the name of the file.
-/

namespace LkLexer.Command.Path

/-- The first name of a path and those after it, given the ones behind a character. -/
def addToNames (c : Char) (names : Text × List Text) : Text × List Text :=
  if c = '/' then ([], names.1 :: names.2) else (c :: names.1, names.2)

/-- The names of a path, between its slashes. Two slashes in a row have the empty name between them. -/
def names (path : Text) : List Text :=
  let (first, later) := path.foldr addToNames ([], [])
  first :: later

/-- The names of a path that lead on. An empty name and a dot stay in the same place. -/
def steps (path : Text) : List Text :=
  (names path).filter fun name => name ≠ [] ∧ name ≠ ".".toList

/-- The name of the file at a path; none when the path leads nowhere or ends one place up. -/
def fileName? (path : Text) : Option Text :=
  (steps path).getLast?.filter (· ≠ "..".toList)

example : ["d/a.lk", "a.lk/", "/d/./", ".", "d/.."].map (fun path => fileName? path.toList) =
    ["a.lk", "a.lk", "d"].map (fun name => some name.toList) ++ [none, none] := by
  decide +kernel

end LkLexer.Command.Path
