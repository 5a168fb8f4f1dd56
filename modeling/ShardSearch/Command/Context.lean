/-
The context command: the passages of one document that mention a keyword.
-/
import ShardSearch.Command.Search

namespace ShardSearch

/-- What a context command asks for. -/
structure ContextRequest where
  keyword : String
  id : DocumentId
  base : Option String
  limit : Option Nat
deriving DecidableEq, Repr

/-- The passages of a document, absent if its text cannot be had. -/
structure ContextReport where
  keyword : String
  id : DocumentId
  passages : Option (List String)
deriving DecidableEq, Repr

namespace ContextReport

/-- A report as JSON. -/
def toJson (r : ContextReport) : Json.Value :=
  .ofFields [("keyword", .string r.keyword), ("id", .string r.id.token),
    ("found", .boolean r.passages.isSome),
    ("paragraphs", .array ((r.passages.getD []).map Json.Value.string))]

/-- A report as text: what is missing, or the passages with an empty line between them. -/
def toText (isOn : Bool) (r : ContextReport) : String :=
  let cross := Style.red.paintString isOn "✗"
  match r.passages with
  | none =>
    cross ++ " Document " ++ Style.yellow.paintString isOn r.id.token ++ " is unavailable\n"
  | some [] =>
    cross ++ " No paragraph of " ++ Style.cyan.paintString isOn r.id.token ++ " mentions: " ++
      Style.yellow.paintString isOn r.keyword ++ "\n"
  | some ps => "\n".intercalate (ps.map fun p => Highlight.render isOn p r.keyword ++ "\n")

/-- A report as it is shown. -/
def render (p : Presentation) (r : ContextReport) : String :=
  match p.format with
  | .json => p.printJson r.toJson
  | .text => r.toText p.display.stylesResults

end ContextReport

namespace ContextRequest

/-- The report of a context command. -/
def report (q : ContextRequest) (files : Files) (network : Network) (settings : Settings) :
    Except CommandError ContextReport := do
  let l ← Catalog.location settings q.base
  let turn := settings.engine.context (l.source files network) q.keyword q.id (settings.limitOr q.limit)
  pure ⟨q.keyword, q.id, turn.result⟩

/-- The output of a context command. -/
def run (q : ContextRequest) (files : Files) (network : Network) (settings : Settings) (p : Presentation) :
    Except CommandError String :=
  (q.report files network settings).map (ContextReport.render p)

/-- The files that a context command looks at. -/
def paths (q : ContextRequest) (settings : Settings) : List String :=
  match Catalog.location settings q.base with
  | .error _ => []
  | .ok l => (l.path? q.id.source).toList

end ContextRequest

end ShardSearch
