/-
Loading the shard of a bucket: request, decode, store.

This is a load that runs alone. What happens when loads overlap is in the module on overlapping
loads; the only error that arises there and not here is supersession.
-/
import ShardSearch.Event
import ShardSearch.Fetch
import ShardSearch.Shard

namespace ShardSearch

/-- Why a shard was not loaded. -/
inductive LoadError where
  | fetch (e : FetchError)
  | decode (resource : String) (fault : Json.Fault)
  /-- A newer load was started before this one was done. -/
  | superseded (resource : String)
deriving DecidableEq, Repr

/-- The text of a load error. -/
def LoadError.message : LoadError → String
  | .fetch e => e.message
  | .decode resource fault => "shard '" ++ resource ++ "' is not a valid prefix tree" ++ fault.asCause
  | .superseded resource =>
    "load of shard '" ++ resource ++ "' was superseded by a newer request"

/-- How the resources of shards are named. -/
structure Loader where
  extension : String
deriving DecidableEq, Repr

namespace Loader

/-- The loader for an extension, written with or without leading dots. -/
def ofExtension (extension : String) : Loader :=
  ⟨String.ofList (extension.toList.dropWhile (· = '.'))⟩

/-- The extension used unless another one is set. -/
def defaultExtension : String := "js"

/-- The resource that publishes a bucket. -/
def resource (l : Loader) (b : Bucket) : String := b.name ++ "." ++ l.extension

/-- What a load makes of the answer to its request. -/
def settle (l : Loader) (b : Bucket) (answer : Except FetchError String) :
    Except LoadError Shard :=
  match answer with
  | .error e => .error (.fetch e)
  | .ok body =>
    match Shard.decode b body with
    | .error f => .error (.decode (l.resource b) f)
    | .ok shard => .ok shard

/-- Loads the shard of a bucket. -/
def load (l : Loader) (source : Source) (b : Bucket) : Except LoadError Shard :=
  l.settle b (source.fetch (l.resource b))

/-- The event that announces a request. -/
def announcement (l : Loader) (source : Source) (b : Bucket) : Event :=
  .fetchingShard b (source.locate (l.resource b))

/-- Loads the shard of a bucket into a store. Nothing is stored if the load fails. Returns how
many trees were added. -/
def loadInto (l : Loader) (source : Source) (b : Bucket) (store : Store) :
    Turn (Except LoadError Nat) :=
  let requests := [l.resource b]
  match l.load source b with
  | .error e => ⟨.error e, store, requests, [l.announcement source b]⟩
  | .ok shard =>
    let (store, added) := store.insertBucket b (shard.trees b)
    ⟨.ok added, store, requests,
      l.announcement source b :: shard.skippedKeys.map .skippedKey ++ [.storedShard b added]⟩

end Loader

end ShardSearch
