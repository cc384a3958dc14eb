import LkLexer.Command.Outcome

/-!
# Files below a working directory

One way to fetch files, for a command that is started in a directory with nothing else around it. A file tree lists
the files and directories below a working directory by the names that lead to them; the directories on the way to an
entry need no entry of their own. A path is followed name by name, and only a directory can be followed further. Above
the working directory lies one more directory, in which nothing else is found. Names and paths have a greatest length.
-/

namespace LkLexer.Command

/-- What a path can lead to. -/
inductive Entry where
  | file (content : ByteArray)
  | directory

/-- The entries below a working directory, each with the names that lead to it. -/
structure FileTree where
  entries : List (List Text × Entry)

/-- A position on the way along a path: below the working directory, or above it. -/
inductive Standing where
  | below (names : List Text)
  | above
deriving DecidableEq

namespace FileTree

/-- The tree of some entries, each given with its path from the working directory. -/
def ofPaths (entries : List (Text × Entry)) : FileTree :=
  ⟨entries.map fun (path, entry) => (Path.steps path, entry)⟩

/-- The entry to which names lead from the working directory. -/
def entry? (tree : FileTree) (names : List Text) : Option Entry :=
  match tree.entries.lookup names with
  | some entry => some entry
  | none =>
    if names = [] || tree.entries.any (fun entry => names.isPrefixOf entry.1) then some .directory else none

/-- What a position holds. -/
def entryAt? (tree : FileTree) : Standing → Option Entry
  | .below names => tree.entry? names
  | .above => some .directory

/-- The position one directory up. -/
def parent : Standing → Standing
  | .below [] => .above
  | .below (first :: later) => .below (first :: later).dropLast
  | .above => .above

/-- The number of bytes that a name may have. -/
def greatestNameLength : Nat := 255

/-- The number of bytes that a path may have. -/
def greatestPathLength : Nat := 4095

/-- One name further along a path. -/
def follow (tree : FileTree) (standing : Standing) (name : Text) : Except ReadError Standing :=
  match tree.entryAt? standing with
  | none => .error .notFound
  | some (.file _) => .error .notADirectory
  | some .directory =>
    if name = [] ∨ name = ".".toList then .ok standing
    else if name = "..".toList then .ok (parent standing)
    else if greatestNameLength < Text.byteLength name then .error .nameTooLong
    else
      match standing with
      | .below names =>
        if (tree.entry? (names ++ [name])).isSome then .ok (.below (names ++ [name])) else .error .notFound
      | .above => .error .notFound

/-- The position to which names lead. -/
def followAll (tree : FileTree) (standing : Standing) : List Text → Except ReadError Standing
  | [] => .ok standing
  | name :: later =>
    match tree.follow standing name with
    | .ok next => tree.followAll next later
    | .error error => .error error

/-- The position to which a path leads. A path that begins with a slash starts above. -/
def locate (tree : FileTree) (path : Text) : Except ReadError Standing :=
  if greatestPathLength < Text.byteLength path then .error .nameTooLong
  else tree.followAll (if path.head? = some '/' then .above else .below []) (Path.names path)

/-- The bytes of the file at a path. -/
def fetch (tree : FileTree) (path : Text) : Except ReadError ByteArray :=
  match tree.locate path with
  | .error error => .error error
  | .ok standing =>
    match tree.entryAt? standing with
    | some (.file content) => .ok content
    | some .directory => .error .isADirectory
    | none => .error .notFound

end FileTree

end LkLexer.Command
