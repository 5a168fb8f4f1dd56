/-
The search command: a term is looked up and the documents found are reported, as text or as
JSON. Both are views of the same report.

Passages are shown for exact matches only, because a longer keyword holds the term merely as its
beginning.
-/
import ShardSearch.Command.Catalog
import ShardSearch.Command.Presentation
import ShardSearch.Highlight

namespace ShardSearch

/-- A document that was found. -/
structure Hit where
  id : DocumentId
  entry : Option Entry
  /-- Passages of the document, if they were asked for and its text could be had. -/
  passages : Option (List String)
deriving DecidableEq, Repr

/-- What a search found. -/
structure SearchReport where
  term : String
  /-- Whether there is a result at all; a result may be empty. -/
  isFound : Bool
  exact : List Hit
  longer : List Hit
deriving DecidableEq, Repr

/-- What a search command asks for. -/
structure SearchRequest where
  term : String
  base : Option String
  /-- The number of passages for each exact match. -/
  context : Option Nat
  /-- The path of an entry list. -/
  entries : Option String
deriving DecidableEq, Repr

namespace SearchReport

/-- The passages of an exact match; none are looked for if none are wanted. -/
def passagesOf (e : Engine) (source : Source) (term : String) (limit : Nat) (id : DocumentId) :
    Option (List String) :=
  if limit = 0 then none else (e.context source term id limit).result

/-- The report of a search by an engine. -/
def collect (e : Engine) (source : Source) (term : String) (limit : Nat) : SearchReport :=
  let result := (e.search source term).result
  let found := result.getD ⟨[], []⟩
  { term
    isFound := result.isSome
    exact := found.exact.map fun id => ⟨id, e.entry? id, passagesOf e source term limit id⟩
    longer := found.longer.map fun id => ⟨id, e.entry? id, none⟩ }

/-! ## As JSON -/

/-- A field that is left out if it has no value. -/
def optionalField (key : String) (v : Option Json.Value) : List (String × Json.Value) :=
  (v.map fun v => (key, v)).toList

/-- A document as JSON. -/
def hitJson (h : Hit) : Json.Value :=
  .ofFields ([("id", .string h.id.token)] ++
    optionalField "permalink" (h.entry.map fun e => .string e.permalink) ++
    optionalField "title" (h.entry.map fun e => .string e.title) ++
    optionalField "context" (h.passages.map fun ps => .array (ps.map Json.Value.string)))

/-- A report as JSON. -/
def toJson (r : SearchReport) : Json.Value :=
  .ofFields [("term", .string r.term), ("found", .boolean r.isFound),
    ("exact", .array (r.exact.map hitJson)), ("partial", .array (r.longer.map hitJson))]

/-! ## As text -/

/-- The line of a document: its identifier and its label. -/
def hitLine (isOn : Bool) (h : Hit) : String :=
  let id := Style.cyan.paintString isOn h.id.token
  match h.entry with
  | some e =>
    "  " ++ id ++ " " ++ Style.green.paintString isOn e.title ++ " " ++
      Style.dimmed.paintString isOn e.permalink ++ "\n"
  | none => "  " ++ id ++ "\n"

/-- The lines of a passage, with the term marked. -/
def passageLines (isOn : Bool) (term passage : String) : List String :=
  (Text.lines passage.toList).map fun line =>
    "      " ++ Style.dimmed.paintString isOn "│" ++ " " ++
      Highlight.render isOn (String.ofList line) term ++ "\n"

/-- The lines of a document with its passages. -/
def hitLines (isOn : Bool) (term : String) (h : Hit) : List String :=
  hitLine isOn h :: (h.passages.getD []).flatMap (passageLines isOn term)

/-- The heading of a group of documents. -/
def groupLine (isOn : Bool) (name : String) (size : Nat) : String :=
  Style.bold.paintString isOn name ++ " (" ++ toString size ++ ")\n"

/-- The last lines: how much was found. -/
def summary (isOn : Bool) (r : SearchReport) : String :=
  let count (n : Nat) : String := Style.cyan.paintString isOn (toString n)
  "\n" ++ Style.green.paintString isOn "✓" ++ " " ++ count r.exact.length ++ " exact, " ++
    count r.longer.length ++ " partial\n"

/-- A result as text. -/
def resultText (isOn : Bool) (r : SearchReport) : String :=
  "\n" ++ Style.cyan.paintString isOn "🔍" ++ " Results for: " ++
    Style.yellow.paintString isOn r.term ++ "\n\n" ++
    groupLine isOn "Exact" r.exact.length ++
    String.join (r.exact.flatMap (hitLines isOn r.term)) ++
    groupLine isOn "Partial" r.longer.length ++
    String.join (r.longer.flatMap (hitLines isOn r.term)) ++
    summary isOn r

/-- The line for a term without a result. -/
def absentText (isOn : Bool) (term : String) : String :=
  Style.red.paintString isOn "✗" ++ " No results for: " ++
    Style.yellow.paintString isOn term ++ "\n"

/-- A report as text. -/
def toText (d : Display) (r : SearchReport) : String :=
  if r.isFound then resultText d.stylesResults r else absentText d.isStyled r.term

/-- A report as it is shown. -/
def render (p : Presentation) (r : SearchReport) : String :=
  match p.format with
  | .json => p.printJson r.toJson
  | .text => r.toText p.display

end SearchReport

namespace SearchRequest

/-- The number of passages for each exact match. -/
def limit (q : SearchRequest) : Nat := q.context.getD 0

/-- The engine of a search, with the entries that label its documents. -/
def engine (settings : Settings) (es : Option EntryList) : Engine :=
  { settings.engine with entries := es }

/-- The report of a search command. -/
def report (q : SearchRequest) (files : Files) (network : Network) (settings : Settings) :
    Except CommandError SearchReport := do
  let l ← Catalog.location settings q.base
  let source := l.source files network
  let es ← Catalog.entries files source (Catalog.entriesPath? settings q.entries)
  pure (SearchReport.collect (engine settings es) source q.term q.limit)

/-- The output of a search command. -/
def run (q : SearchRequest) (files : Files) (network : Network) (settings : Settings) (p : Presentation) :
    Except CommandError String :=
  (q.report files network settings).map (SearchReport.render p)

/-- The resources that a search command requests after the entries. -/
def requests (q : SearchRequest) (source : Source) (settings : Settings) : List String :=
  let turn := settings.engine.search source q.term
  let found := turn.result.getD ⟨[], []⟩
  turn.requests ++ if q.limit = 0 then [] else found.exact.map DocumentId.source

/-- The files that a search command looks at. -/
def paths (q : SearchRequest) (files : Files) (network : Network) (settings : Settings) : List String :=
  match Catalog.location settings q.base with
  | .error _ => []
  | .ok l =>
    (Catalog.entriesFile? l (Catalog.entriesPath? settings q.entries)).toList ++
      (q.requests (l.source files network) settings).filterMap l.path?

end SearchRequest

end ShardSearch
