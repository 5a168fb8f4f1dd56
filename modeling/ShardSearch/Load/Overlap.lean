/-
Loads that overlap, as a machine of atomic steps.

Every load takes a ticket, waits for the one request slot, and gives up if a newer ticket was
issued: once when it gets the slot and once more when its answer has arrived. Tickets come from a
counter of 64 bits.

Which call moves next is up to the schedule, so a run is a list of calls, and a call that cannot move
passes its turn. Loads are one kind of calls that take turns like this, so runs are defined for any
kind (`Machine`).
-/
import ShardSearch.Load.Basic

namespace ShardSearch

/-- Where a load stands. -/
inductive Phase where
  /-- It has no ticket. -/
  | ready
  /-- It waits for the slot. -/
  | queued (ticket : UInt64)
  /-- It has the slot and has made no request. -/
  | holding (ticket : UInt64)
  /-- Its request is under way. -/
  | asking (ticket : UInt64)
  /-- Its answer has arrived. -/
  | answered (ticket : UInt64) (answer : Except FetchError String)
  /-- Its outcome is known, and it still has the slot. -/
  | decided (outcome : Except LoadError Shard)
  /-- It has a shard to store. -/
  | loaded (shard : Shard)
  /-- It is done; the number is that of the trees added. -/
  | finished (outcome : Except LoadError Nat)

/-- What the calls on a loader and its store share. -/
structure Shared where
  /-- The newest ticket. -/
  issued : UInt64
  /-- The call that has the slot. -/
  holder : Option Nat
  store : Store
  /-- The resources requested so far. -/
  requests : List String
  /-- The calls that took a ticket, the latest last. -/
  takers : List Nat

/-- A loader on which no call has moved. -/
def Shared.start (store : Store) (issued : UInt64) : Shared := ⟨issued, none, store, [], []⟩

/-- The next step of call `i`, which loads a bucket and stands at a phase; absent if it is finished
or has to wait for the slot. -/
def Phase.step? (l : Loader) (source : Source) (i : Nat) (b : Bucket) (s : Shared) :
    Phase → Option (Shared × Phase)
  | .ready =>
    some ({ s with issued := s.issued + 1, takers := s.takers ++ [i] }, .queued (s.issued + 1))
  | .queued ticket =>
    if s.holder.isNone then some ({ s with holder := some i }, .holding ticket) else none
  | .holding ticket =>
    if s.issued = ticket then
      some ({ s with requests := s.requests ++ [l.resource b] }, .asking ticket)
    else some (s, .decided (.error (.superseded (l.resource b))))
  | .asking ticket => some (s, .answered ticket (source.fetch (l.resource b)))
  | .answered ticket answer =>
    match answer with
    | .error e => some (s, .decided (.error (.fetch e)))
    | .ok body =>
      if s.issued = ticket then some (s, .decided (l.settle b (.ok body)))
      else some (s, .decided (.error (.superseded (l.resource b))))
  | .decided outcome =>
    match outcome with
    | .error e => some ({ s with holder := none }, .finished (.error e))
    | .ok shard => some ({ s with holder := none }, .loaded shard)
  | .loaded shard =>
    let (store, added) := s.store.insertBucket b (shard.trees b)
    some ({ s with store := store }, .finished (.ok added))
  | .finished _ => none

/-- A kind of calls on a loader, each for a `κ` and standing at a `σ`. -/
structure Machine (κ σ : Type) where
  /-- The next step of call `i` on an index; absent if the call is done or has to wait. -/
  step? (source : Source) (i : Nat) (arg : κ) (s : Shared) : σ → Option (Shared × σ)

/-- A loader, its store and the calls on it. -/
structure Calls (κ σ : Type) extends Shared where
  calls : List (κ × σ)

namespace Calls

variable {κ σ : Type} (m : Machine κ σ)

/-- The next step of call `i`; absent if there is no such call or it cannot move. -/
def step? (source : Source) (s : Calls κ σ) (i : Nat) : Option (Calls κ σ) :=
  match s.calls[i]? with
  | none => none
  | some (arg, stage) =>
    match m.step? source i arg s.toShared stage with
    | none => none
    | some (shared, next) => some ⟨shared, s.calls.set i (arg, next)⟩

/-- The state after a turn of call `i`. -/
def turn (source : Source) (s : Calls κ σ) (i : Nat) : Calls κ σ := (s.step? m source i).getD s

/-- The state after turns, each on the index as it answers then. -/
def play (s : Calls κ σ) (turns : List (Source × Nat)) : Calls κ σ :=
  turns.foldl (fun s turn => s.turn m turn.1 turn.2) s

/-- The state after the turns of a schedule, on an index that does not change. -/
def run (source : Source) (s : Calls κ σ) (schedule : List Nat) : Calls κ σ :=
  s.play m (schedule.map fun i => (source, i))

end Calls

/-- A loader, its store and the loads on it. -/
abbrev Loads := Calls Bucket Phase

/-- Loads of buckets. -/
def Machine.loads (l : Loader) : Machine Bucket Phase := ⟨Phase.step? l⟩

namespace Loads

/-- Calls for some buckets, none of which has moved. -/
def start (store : Store) (buckets : List Bucket) : Loads :=
  ⟨.start store 0, buckets.map fun b => (b, .ready)⟩

/-- The number of steps that take any call from start to end. -/
def stepsPerCall : Nat := 7

/-- The schedule in which the first call is inside its request when all others take their
tickets, one after another, and then each call runs to its end. -/
def overtaking (count : Nat) : List Nat :=
  let all := List.range count
  [0, 0, 0] ++ all.drop 1 ++ all.flatMap (List.replicate stepsPerCall)

/-- The outcomes of the finished calls, in the order of the calls. -/
def outcomes (s : Loads) : List (Except LoadError Nat) :=
  s.calls.filterMap fun (_, p) =>
    match p with
    | .finished outcome => some outcome
    | _ => none

end Loads

end ShardSearch
