/-
Searches that overlap, as a machine of atomic steps.

A search reads the store, reads it again, loads and reads it a third time, and other searches may
move between any two of these steps. Nothing is held across them: what a search found missing may
be there by the time its own load begins.
-/
import ShardSearch.Engine
import ShardSearch.Load.Overlap

namespace ShardSearch

/-- Where a search stands. From the second stage on it knows the leading character of its query and
the rest. -/
inductive Stage where
  /-- It has not looked at its term. -/
  | called
  /-- It is to look for a tree. -/
  | looking (first : Char) (rest : List Char)
  /-- There was no tree, and it is to look whether the bucket was stored. -/
  | missed (first : Char) (rest : List Char)
  /-- It loads the bucket. -/
  | loading (first : Char) (rest : List Char) (phase : Phase)
  /-- It is to take the tree and walk it. -/
  | ready (first : Char) (rest : List Char)
  /-- It has returned. -/
  | done (result : Except SearchError Matches)

/-- The next step of call `i`, which searches a term and stands at a stage; absent if it has returned
or has to wait for the slot. -/
def Stage.step? (l : Loader) (least : Nat) (source : Source) (i : Nat) (term : String) (s : Shared) :
    Stage → Option (Shared × Stage)
  | .called =>
    match Text.lower term.toList with
    | first :: rest =>
      if least ≤ (first :: rest).length then some (s, .looking first rest)
      else some (s, .done (.error (.tooShort (String.ofList (first :: rest)) least)))
    | [] => some (s, .done (.error (.tooShort "" least)))
  | .looking first rest =>
    if s.store.contains first then some (s, .ready first rest) else some (s, .missed first rest)
  | .missed first rest =>
    if s.store.isFetched (.ofChar first) then some (s, .ready first rest)
    else some (s, .loading first rest .ready)
  | .loading first rest (.finished outcome) =>
    match outcome with
    | .ok _ => some (s, .ready first rest)
    | .error cause => some (s, .done (.error (.unavailable (Bucket.ofChar first).name cause)))
  | .loading first rest phase =>
    match phase.step? l source i (.ofChar first) s with
    | none => none
    | some (s, phase) => some (s, .loading first rest phase)
  | .ready first rest => some (s, .done (Engine.lookIn s.store first rest))
  | .done _ => none

/-- A session and the searches on it. -/
abbrev Searches := Calls String Stage

/-- Searches for terms. -/
def Machine.searches (l : Loader) (least : Nat) : Machine String Stage := ⟨Stage.step? l least⟩

namespace Searches

/-- Calls for some terms, none of which has moved. -/
def start (store : Store) (issued : UInt64) (terms : List String) : Searches :=
  ⟨.start store issued, terms.map fun term => (term, .called)⟩

/-- The number of steps that take any search from start to end. -/
def stepsPerSearch : Nat := 12

/-- The schedule in which each search runs to its end before the next one starts. -/
def serial (count : Nat) : List Nat := (List.range count).flatMap (List.replicate stepsPerSearch)

end Searches

end ShardSearch
