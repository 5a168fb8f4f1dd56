/-
Settings: a few optional keys of a TOML file, and what holds where a key is missing.

Keys that are not known are ignored. A known key with a value of the wrong kind makes the whole
file invalid. Options of the command line win over the file.
-/
import ShardSearch.Engine
import ShardSearch.Files.Snapshot
import ShardSearch.Toml.Reader

namespace ShardSearch

/-- How results are shown. -/
inductive OutputFormat where
  | text
  | json
deriving DecidableEq, Repr

/-- The settings of a file, each of which may be missing. -/
structure Settings where
  basePath : Option String
  shardExtension : Option String
  timeoutSeconds : Option Nat
  leastLength : Option Nat
  contextLimit : Option Nat
  entriesFile : Option String
  defaultFormat : Option String
deriving DecidableEq, Repr

namespace Settings

/-- Settings without any key. -/
def empty : Settings := ⟨none, none, none, none, none, none, none⟩

/-- The string under a key; refused if there is something else. -/
def stringAt (t : Toml.Table) (key : String) : Option (Option String) :=
  match t.lookup key.toList with
  | none => some none
  | some (.value (.string s)) => some (some (String.ofList s))
  | some _ => none

/-- The count under a key; refused if there is something else. -/
def countAt (t : Toml.Table) (key : String) : Option (Option Nat) :=
  match t.lookup key.toList with
  | none => some none
  | some (.value (.integer n)) => if 0 ≤ n then some (some n.toNat) else none
  | some _ => none

/-- The settings of a document. -/
def ofTable? (t : Toml.Table) : Option Settings := do
  let basePath ← stringAt t "base_path"
  let shardExtension ← stringAt t "shard_extension"
  let timeoutSeconds ← countAt t "timeout_secs"
  let leastLength ← countAt t "min_query_len"
  let contextLimit ← countAt t "context_limit"
  let entriesFile ← stringAt t "entries_file"
  let defaultFormat ← stringAt t "default_format"
  pure ⟨basePath, shardExtension, timeoutSeconds, leastLength, contextLimit, entriesFile,
    defaultFormat⟩

/-- The settings of a text, if they are valid. -/
def parse? (s : String) : Option Settings := (Toml.parse? s).bind ofTable?

/-- The output format that the settings name, in any case. -/
def format? (s : Settings) : Option OutputFormat :=
  s.defaultFormat.bind fun name =>
    match Text.lowercase name with
    | "json" => some .json
    | "text" => some .text
    | _ => none

/-- The base of the index, from the command line or else from the settings. -/
def baseOr (s : Settings) (given : Option String) : Option String := given.or s.basePath

/-- The number of passages, from the command line, the settings or the default. -/
def limitOr (s : Settings) (given : Option Nat) : Nat :=
  (given.or s.contextLimit).getD Passage.defaultLimit

/-- The seconds a request may take. -/
def timeout (s : Settings) : Nat := s.timeoutSeconds.getD 30

/-- The extension of shards. -/
def extension (s : Settings) : String := s.shardExtension.getD Loader.defaultExtension

/-- The length of the shortest query. -/
def least (s : Settings) : Nat := s.leastLength.getD Engine.defaultLeastLength

/-- A session with nothing loaded. -/
def engine (s : Settings) : Engine := ⟨.ofExtension s.extension, s.least, none, .empty⟩

/-- The settings file of the working directory. -/
def localFile : String := ".sitesearchrc.toml"

/-- The settings file of a home directory. -/
def homeFile (home : String) : String :=
  Path.join (Path.join (Path.join home ".config") "sitesearch") "config.toml"

/-- The settings of a file; absent if it cannot be read or is invalid. -/
def load? (files : Files) (path : String) : Option Settings :=
  match files.readText path with
  | .ok text => parse? text
  | .error _ => none

/-- The paths at which settings are looked for, the first one first. -/
def paths (home : Option String) : List String := localFile :: (home.map homeFile).toList

/-- The settings of the first file that has valid ones. -/
def load (files : Files) (home : Option String) : Settings :=
  ((paths home).findSome? (load? files)).getD empty

end Settings

end ShardSearch
