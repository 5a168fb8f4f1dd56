/-
A search session over a published index.

A query is lowercased and its leading character picks the bucket. The bucket's shard is loaded
unless the store has a tree for the character or remembers the bucket; the rest of the query is
then walked down the tree.
-/
import ShardSearch.Entry
import ShardSearch.Load.Basic
import ShardSearch.Passage
import ShardSearch.Tree.Walk

namespace ShardSearch

/-- Why a query has no result. -/
inductive SearchError where
  | tooShort (query : String) (least : Nat)
  | unavailable (bucket : String) (cause : LoadError)
  | noTree (first : Char)
  | noPath (query : String)
deriving DecidableEq, Repr

/-- The text of a search error. -/
def SearchError.message : SearchError → String
  | .tooShort query least =>
    "query '" ++ query ++ "' is shorter than " ++ toString least ++ " characters"
  | .unavailable bucket cause =>
    "bucket '" ++ bucket ++ "' is unavailable: " ++ cause.message
  | .noTree first => "no prefix tree for leading character '" ++ String.singleton first ++ "'"
  | .noPath query => "no indexed keyword starts with '" ++ query ++ "'"

/-- A session: how it names shards, the shortest query it takes, the labels of documents, and the
trees loaded so far. -/
structure Engine where
  loader : Loader
  leastLength : Nat
  entries : Option EntryList
  store : Store

namespace Engine

/-- The length of the shortest query taken unless another one is set. -/
def defaultLeastLength : Nat := 2

/-- A session with nothing loaded and the default settings. -/
def fresh : Engine :=
  ⟨.ofExtension Loader.defaultExtension, defaultLeastLength, none, .empty⟩

/-- The label of a document. -/
def entry? (e : Engine) (id : DocumentId) : Option Entry :=
  e.entries.bind fun es => es.lookup id

/-- Makes sure that the shard of a leading character was loaded. -/
def ensureLoaded (e : Engine) (source : Source) (first : Char) : Turn (Except SearchError Unit) :=
  if e.store.contains first then ⟨.ok (), e.store, [], [.cacheHit first]⟩
  else
    let b := Bucket.ofChar first
    if e.store.isFetched b then ⟨.ok (), e.store, [], []⟩
    else
      let t := e.loader.loadInto source b e.store
      { t with result := match t.result with
          | .ok _ => .ok ()
          | .error cause => .error (.unavailable b.name cause) }

/-- Looks a query up in a store that has what it needs. -/
def lookIn (store : Store) (first : Char) (rest : List Char) : Except SearchError Matches :=
  match store.get? first with
  | none => .error (.noTree first)
  | some tree =>
    match tree.find? rest with
    | none => .error (.noPath (String.ofList (first :: rest)))
    | some found => .ok found

/-- Looks up a query in lowercase. -/
def searchLower (e : Engine) (source : Source) (query : List Char) :
    Turn (Except SearchError Matches) :=
  match query with
  | first :: rest =>
    if e.leastLength ≤ query.length then
      let t := e.ensureLoaded source first
      { t with result := match t.result with
          | .error cause => .error cause
          | .ok () => lookIn t.store first rest }
    else ⟨.error (.tooShort (String.ofList query) e.leastLength), e.store, [], []⟩
  | [] => ⟨.error (.tooShort "" e.leastLength), e.store, [], []⟩

/-- Searches a term. -/
def trySearch (e : Engine) (source : Source) (term : String) :
    Turn (Except SearchError Matches) :=
  e.searchLower source (Text.lower term.toList)

/-- Searches a term; the reason of an absent result is only reported. -/
def search (e : Engine) (source : Source) (term : String) : Turn (Option Matches) :=
  let t := e.trySearch source term
  match t.result with
  | .ok found => { t with result := some found }
  | .error cause =>
    { t with result := none, events := t.events ++ [.noResult term cause.message] }

/-- The passages of a document; absent, and the reason reported, if its text cannot be had. -/
def context (e : Engine) (source : Source) (keyword : String) (id : DocumentId) (limit : Nat) :
    Turn (Option (List String)) :=
  match Passage.extract source keyword id limit with
  | .ok passages => ⟨some passages, e.store, [id.source], []⟩
  | .error cause => ⟨none, e.store, [id.source], [.noContext id cause.message]⟩

end Engine

end ShardSearch
