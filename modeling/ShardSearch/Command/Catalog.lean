/-
The index that a command works on: its base and the entries that label its documents.
-/
import ShardSearch.Location
import ShardSearch.Settings

namespace ShardSearch

/-- Why a command failed. -/
inductive CommandError where
  /-- Neither the command line nor the settings name a base. -/
  | noBase
  /-- The entry list that was asked for cannot be read. -/
  | unreadableEntries (path : String) (cause : ReadError)
  /-- The entry list that was asked for is malformed. -/
  | malformedEntries (path : String) (cause : Json.Fault)
deriving DecidableEq, Repr

namespace CommandError

/-- The text of a command's error. -/
def message : CommandError → String
  | .noBase =>
    "No index base given\n\n" ++
    "Suggestion: pass --base with the URL or directory of the generated search index.\n" ++
    "Example: sitesearch --base https://example.org/search/ search python\n" ++
    "Or set base_path in .sitesearchrc.toml"
  | .unreadableEntries path _ => "failed to read entry list " ++ path
  | .malformedEntries path _ => "failed to parse entry list " ++ path

/-- The text of the cause of an error, if it has one. -/
def cause? : CommandError → Option String
  | .noBase => none
  | .unreadableEntries _ cause => some cause.message
  | .malformedEntries _ cause => cause.message?

/-- An error as it is shown. -/
def report (e : CommandError) : String :=
  "Error: " ++ e.message ++ "\n" ++
    match e.cause? with
    | none => ""
    | some cause => "\nCaused by:\n    " ++ cause ++ "\n"

end CommandError

namespace Catalog

/-- The location of the index, from the command line or else from the settings. -/
def location (settings : Settings) (base : Option String) : Except CommandError Location :=
  match settings.baseOr base with
  | none => .error .noBase
  | some base => .ok (.ofBase base)

/-- The path of an entry list that was asked for, on the command line or else in the settings. -/
def entriesPath? (settings : Settings) (entries : Option String) : Option String :=
  entries.or settings.entriesFile

/-- The entry list in a file. -/
def readEntries (files : Files) (path : String) : Except CommandError EntryList :=
  match files.readText path with
  | .error cause => .error (.unreadableEntries path cause)
  | .ok text =>
    match EntryList.decode text with
    | .error cause => .error (.malformedEntries path cause)
    | .ok es => .ok es

/-- The entry list that an index publishes, if it publishes one that is well formed. -/
def publishedEntries (source : Source) : Option EntryList :=
  match (EntryList.fetch source .empty).result with
  | .ok es => es
  | .error _ => none

/-- The entries that label documents: those of the file that was asked for, which has to be
there, or else those that the index publishes. -/
def entries (files : Files) (source : Source) (path : Option String) :
    Except CommandError (Option EntryList) :=
  match path with
  | some path =>
    match readEntries files path with
    | .error e => .error e
    | .ok es => .ok (some es)
  | none => .ok (publishedEntries source)

/-- The file in which entries are looked for. -/
def entriesFile? (l : Location) (path : Option String) : Option String :=
  path.or (l.path? EntryList.resource)

end Catalog

end ShardSearch
