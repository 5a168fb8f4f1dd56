/-
The list of entries that labels documents: the permalink and title of each, by ordinal.
-/
import ShardSearch.Event
import ShardSearch.Fetch
import ShardSearch.Json.Container

namespace ShardSearch

/-- How a document is labelled. -/
structure Entry where
  permalink : String
  title : String
deriving DecidableEq, Repr

/-- The entries of an index, the one with ordinal 0 first. -/
abbrev EntryList := List Entry

namespace EntryList

open Json

/-- Reads a pair of strings after its opening bracket. After the second string only the closing
bracket may follow. -/
def readPair (_depth : Nat) : Reader Entry := fun s =>
  match nextElement true s with
  | .error f => .error f
  | .ok (.closed _) => .error (.mismatch (.length 0 .pair))
  | .ok (.item s) =>
    match text s with
    | .error f => .error f
    | .ok (permalink, s) =>
      match nextElement false s with
      | .error f => .error f
      | .ok (.closed _) => .error (.mismatch (.length 1 .pair))
      | .ok (.item s) =>
        match text s with
        | .error f => .error f
        | .ok (title, s) =>
          match closeArray s with
          | .error f => .error f
          | .ok rest => .ok (⟨String.ofList permalink, String.ofList title⟩, rest)

/-- Reads a list of pairs. -/
def read : (depth : Nat) → Reader EntryList :=
  array .sequence fun depth => elements (array .pair readPair depth)

/-- The entries that a text publishes. -/
def decode (s : String) : Except Fault EntryList := Json.decode read s

/-- The entry of a document whose identifier is an ordinal of the list. -/
def lookup (es : EntryList) (id : DocumentId) : Option Entry :=
  id.ordinal?.bind fun n => es[n]?

/-- The resource that publishes the entries. -/
def resource : String := "entries.json"

/-- The published entries; none if the resource is malformed. -/
def fetch (source : Source) (store : Store) : Turn (Except FetchError (Option EntryList)) :=
  match source.fetch resource with
  | .error e => ⟨.error e, store, [resource], []⟩
  | .ok body =>
    match decode body with
    | .ok es => ⟨.ok (some es), store, [resource], []⟩
    | .error _ => ⟨.ok none, store, [resource], [.malformedEntries (source.locate resource)]⟩

end EntryList

end ShardSearch
