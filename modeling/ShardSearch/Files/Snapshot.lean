/-
A snapshot of a working directory: what opening a path in it answers.

A path is followed step by step from the working directory, and the first step that fails decides
the error. Outside the working directory the snapshot knows directories on the way up and
nothing else.
-/
import ShardSearch.Fetch
import ShardSearch.Files.Path
import ShardSearch.Text.Search

namespace ShardSearch

/-- What reading a file answers, by path. -/
abbrev Files := String → Except ReadError ByteArray

namespace Files

/-- The text of a file. -/
def readText (files : Files) (path : String) : Except ReadError String :=
  match files path with
  | .error e => .error e
  | .ok bytes =>
    match String.fromUTF8? bytes with
    | some s => .ok s
    | none => .error .notText

end Files

/-- The items of a working directory by the names on the way to them. A directory is listed
without contents, and the directories on the way to an item need not be listed. -/
structure Snapshot where
  items : List (List (List Char) × Option ByteArray)

namespace Snapshot

/-- An item as it is found. -/
inductive Item where
  | file (contents : ByteArray)
  | directory

/-- The item with some names on the way to it. -/
def item? (s : Snapshot) (names : List (List Char)) : Option Item :=
  match s.items.find? fun p => p.1 = names with
  | some (_, some contents) => some (.file contents)
  | some (_, none) => some .directory
  | none => if s.items.any fun p => names.isPrefixOf p.1 then some .directory else none

/-- The item of a path relative to the working directory: a path that ends with a slash is a
directory. -/
def itemOf (path : String) (contents : ByteArray) : List (List Char) × Option ByteArray :=
  let parts := Path.parts path.toList
  (parts.filter fun p => !p.isEmpty, if parts.getLast? = some [] then none else some contents)

/-- The snapshot of items given by their paths. -/
def ofPaths (paths : List (String × ByteArray)) : Snapshot :=
  ⟨paths.map fun (p, contents) => itemOf p contents⟩

/-- Where a path has led so far. -/
inductive Place where
  /-- At an item, with the names on the way to it. -/
  | inside (names : List (List Char)) (item : Item)
  /-- In a directory that encloses the working directory. -/
  | outside

/-- The longest name, in bytes. -/
def longestName : Nat := 255

/-- The longest path, in bytes. -/
def longestPath : Nat := 4095

/-- Takes one step. -/
def step (s : Snapshot) (place : Place) (st : Path.Step) : Except ReadError Place :=
  match place with
  | .inside _ (.file _) => .error .notDirectory
  | .inside names .directory =>
    match st with
    | .here => .ok place
    | .parent => if names.isEmpty then .ok .outside else .ok (.inside names.dropLast .directory)
    | .into name =>
      if longestName < Text.width name then .error .nameTooLong
      else
        match s.item? (names ++ [name]) with
        | some item => .ok (.inside (names ++ [name]) item)
        | none => .error .notFound
  | .outside =>
    match st with
    | .into name => if longestName < Text.width name then .error .nameTooLong else .error .notFound
    | _ => .ok .outside

/-- Reads the file that a path leads to. -/
def read (s : Snapshot) : Files := fun path =>
  let cs := path.toList
  if cs.contains '\x00' then .error .zeroInName
  else if cs.isEmpty then .error .notFound
  else if longestPath < Text.width cs then .error .nameTooLong
  else
    let start := if Path.isAbsolute cs then Place.outside else .inside [] .directory
    match (Path.steps cs).foldlM (s.step ·) start with
    | .error e => .error e
    | .ok (.inside _ (.file contents)) => .ok contents
    | .ok _ => .error .isDirectory

end Snapshot

end ShardSearch
