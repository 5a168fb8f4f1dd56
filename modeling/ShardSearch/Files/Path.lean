/-
Paths as texts: joining, and the steps a path takes through directories.
-/
namespace ShardSearch.Path

/-- Joins a path to a base. An absolute path stands for itself; otherwise a slash is put between
the two unless the base is empty or ends with one. Nothing is normalized. -/
def join (base path : String) : String :=
  match path.toList with
  | '/' :: _ => path
  | _ =>
    if base.isEmpty || base.toList.getLast? = some '/' then base ++ path
    else base ++ "/" ++ path

/-- One step of a path. -/
inductive Step where
  /-- Stay in the directory. -/
  | here
  /-- Go to the parent directory. -/
  | parent
  /-- Go to a named item. -/
  | into (name : List Char)
deriving DecidableEq, Repr

/-- The step of a part between slashes; repeated slashes stay in the directory. -/
def stepOf (part : List Char) : Step :=
  if part = [] ∨ part = ['.'] then .here
  else if part = ['.', '.'] then .parent
  else .into part

/-- The parts of a path between its slashes. -/
def parts : List Char → List (List Char)
  | [] => [[]]
  | '/' :: rest => [] :: parts rest
  | c :: rest =>
    match parts rest with
    | [] => [[c]]
    | p :: ps => (c :: p) :: ps

/-- The steps of a path. -/
def steps (path : List Char) : List Step := (parts path).map stepOf

/-- Whether a path starts at the root of the file system. -/
def isAbsolute (path : List Char) : Bool := path.head? = some '/'

end ShardSearch.Path
