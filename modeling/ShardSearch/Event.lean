/-
What a session reports about its work, as data and as lines of a log.
-/
import ShardSearch.Bucket
import ShardSearch.Store

namespace ShardSearch

/-- Something a session reports. -/
inductive Event where
  | fetchingShard (b : Bucket) (location : String)
  | storedShard (b : Bucket) (added : Nat)
  | cacheHit (first : Char)
  | noResult (term reason : String)
  | noContext (id : DocumentId) (reason : String)
  /-- A key of a merged shard that no query can reach. -/
  | skippedKey (key : List Char)
  | malformedEntries (location : String)
deriving DecidableEq, Repr

/-- The line of an event. -/
def Event.line : Event → String
  | .fetchingShard b location =>
    "DEBUG fetching shard bucket=" ++ b.name ++ " location=" ++ location
  | .storedShard b added => "DEBUG stored shard bucket=" ++ b.name ++ " added=" ++ toString added
  | .cacheHit first => "DEBUG shard cache hit first=" ++ String.singleton first
  | .noResult term reason => "DEBUG no result term=" ++ term ++ " reason=" ++ reason
  | .noContext id reason => "DEBUG no context document=" ++ id.token ++ " error=" ++ reason
  | .skippedKey key =>
    "WARN skipping sentinel shard entry with multi-character key key=" ++ String.ofList key
  | .malformedEntries location => "WARN ignoring malformed entry list location=" ++ location

/-- What one operation of a session gives back: its result, the store after it, the resources it
requested and the events it reported, both in order. -/
structure Turn (α : Type) where
  result : α
  store : Store
  requests : List String
  events : List Event

/-- The same operation with its result seen through a function. -/
def Turn.map {α β : Type} (f : α → β) (t : Turn α) : Turn β :=
  ⟨f t.result, t.store, t.requests, t.events⟩

end ShardSearch
