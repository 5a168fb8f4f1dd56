/-
Searches that overlap on one session: whatever the schedule, a search that returns has answered like
the index itself, or was overtaken while it was loading.

The store is faithful at every moment (`CacheInvariant`), so what a search reads there is right
whenever it reads it. What remains is to carry from step to step what a search knows: what it saw
in the store stays there, its answer is the index's, and its ticket is the newest one unless another
call took one after it. `Sound` says this for each phase and stage. A step of one call keeps it for
the others because the shared state only grows (`Grows`).
-/
import ShardSearch.Engine.Overlap
import ShardSearch.Proofs.CacheInvariant
import ShardSearch.Proofs.CallRuns

namespace ShardSearch

/-! ## Tickets -/

namespace Shared

/-- Another call took a ticket after call `i` took its own. -/
def Overtaken (s : Shared) (i : Nat) : Prop := ∃ j, j ≠ i ∧ [i, j].Sublist s.takers

/-- Call `i` has a ticket, and the counter has moved on by one for each call after it. -/
def Ticketed (s : Shared) (i : Nat) (ticket : UInt64) : Prop :=
  ∃ before after, s.takers = before ++ i :: after ∧ s.issued = ticket + UInt64.ofNat after.length

/-- What a step of call `i` may do to the shared state as others see it. -/
structure Grows (i : Nat) (s s' : Shared) : Prop where
  store : s.store.Within s'.store
  tickets : (s'.takers = s.takers ∧ s'.issued = s.issued) ∨
    (s'.takers = s.takers ++ [i] ∧ s'.issued = s.issued + 1)

theorem Grows.refl (i : Nat) (s : Shared) : Grows i s s := ⟨.refl _, .inl ⟨rfl, rfl⟩⟩

theorem Grows.not_mem {i j : Nat} {s s' : Shared} (h : Grows i s s') (hij : j ≠ i) (hj : j ∉ s.takers) :
    j ∉ s'.takers := by
  rcases h.tickets with ⟨ht, -⟩ | ⟨ht, -⟩
  · rwa [ht]
  · rw [ht]
    simp [hj, hij]

theorem Grows.overtaken {i j : Nat} {s s' : Shared} (h : Grows i s s') (hj : s.Overtaken j) :
    s'.Overtaken j := by
  obtain ⟨k, hk, hsub⟩ := hj
  rcases h.tickets with ⟨ht, -⟩ | ⟨ht, -⟩
  · exact ⟨k, hk, ht ▸ hsub⟩
  · exact ⟨k, hk, ht ▸ hsub.trans (List.sublist_append_left ..)⟩

theorem Grows.ticketed {i j : Nat} {ticket : UInt64} {s s' : Shared} (h : Grows i s s')
    (hj : s.Ticketed j ticket) : s'.Ticketed j ticket := by
  obtain ⟨before, after, htakers, hissued⟩ := hj
  rcases h.tickets with ⟨ht, hi⟩ | ⟨ht, hi⟩
  · exact ⟨before, after, ht.trans htakers, hi.trans hissued⟩
  · refine ⟨before, after ++ [i], by simp [ht, htakers], ?_⟩
    rw [hi, hissued, List.length_append, List.length_singleton, UInt64.ofNat_add, UInt64.add_assoc]
    rfl

/-- A call whose ticket is not the newest was overtaken. -/
theorem Ticketed.overtaken {i : Nat} {ticket : UInt64} {s : Shared} (h : s.Ticketed i ticket)
    (hn : s.takers.Nodup) (hne : s.issued ≠ ticket) : s.Overtaken i := by
  obtain ⟨before, after, htakers, hissued⟩ := h
  cases after with
  | nil => simp [hissued] at hne
  | cons j after =>
    have hji : j ≠ i := by
      rw [htakers, List.nodup_append] at hn
      have hi := (List.nodup_cons.mp hn.2.1).1
      rintro rfl
      simp at hi
    refine ⟨j, hji, ?_⟩
    rw [htakers]
    have hsub : [i, j].Sublist (i :: j :: after) := by simp
    exact hsub.trans (List.sublist_append_right ..)

/-- The shared state while the index does not change: the store is faithful, and no call took two
tickets. -/
structure Good (l : Loader) (source : Source) (s : Shared) : Prop where
  faithful : s.store.Faithful l source
  nodup : s.takers.Nodup

end Shared

/-! ## Loads -/

/-- What holds of call `i` at each phase of loading a bucket. -/
def Phase.Sound (l : Loader) (source : Source) (s : Shared) (i : Nat) (b : Bucket) : Phase → Prop
  | .ready => i ∉ s.takers
  | .queued ticket | .holding ticket | .asking ticket => s.Ticketed i ticket
  | .answered ticket answer => s.Ticketed i ticket ∧ answer = source.fetch (l.resource b)
  | .decided outcome =>
    outcome = l.load source b ∨ outcome = .error (.superseded (l.resource b)) ∧ s.Overtaken i
  | .loaded shard => l.load source b = .ok shard
  | .finished (.ok _) => s.store.isFetched b = true
  | .finished (.error e) =>
    l.load source b = .error e ∨ e = .superseded (l.resource b) ∧ s.Overtaken i

section

variable {l : Loader} {source : Source}

theorem Phase.Sound.mono {i j : Nat} {s s' : Shared} {b : Bucket} {p : Phase} (h : p.Sound l source s j b)
    (hij : j ≠ i) (hg : s.Grows i s') : p.Sound l source s' j b := by
  cases p with
  | ready => exact hg.not_mem hij h
  | queued | holding | asking => exact hg.ticketed h
  | answered => exact ⟨hg.ticketed h.1, h.2⟩
  | decided => exact h.imp_right fun h => ⟨h.1, hg.overtaken h.2⟩
  | loaded => exact h
  | finished outcome =>
    cases outcome with
    | ok => exact hg.store.isFetched h
    | error => exact Or.imp_right (fun h => ⟨h.1, hg.overtaken h.2⟩) h

theorem Phase.step?_sound {i : Nat} {s s' : Shared} {first : Char} {p p' : Phase} (hs : s.Good l source)
    (hp : p.Sound l source s i (.ofChar first))
    (h : p.step? l source i (.ofChar first) s = some (s', p')) :
    s.Grows i s' ∧ s'.Good l source ∧ p'.Sound l source s' i (.ofChar first) := by
  have keep : ∀ {q : Phase}, q.Sound l source s i (.ofChar first) →
      s.Grows i s ∧ s.Good l source ∧ q.Sound l source s i (.ofChar first) :=
    fun hq => ⟨.refl i s, hs, hq⟩
  cases p with
  | ready =>
    simp only [step?, Option.some.injEq, Prod.mk.injEq] at h
    obtain ⟨rfl, rfl⟩ := h
    refine ⟨⟨.refl _, .inr ⟨rfl, rfl⟩⟩, ⟨hs.faithful, ?_⟩, s.takers, [], rfl, by simp⟩
    have hi : i ∉ s.takers := hp
    refine List.nodup_append.mpr ⟨hs.nodup, by simp, fun a ha b hb => ?_⟩
    rw [List.mem_singleton] at hb
    rintro rfl
    exact hi (hb ▸ ha)
  | queued ticket =>
    simp only [step?] at h
    split at h
    · cases h
      exact ⟨⟨.refl _, .inl ⟨rfl, rfl⟩⟩, ⟨hs.faithful, hs.nodup⟩, hp⟩
    · cases h
  | holding ticket =>
    simp only [step?] at h
    split at h
    · cases h
      exact ⟨⟨.refl _, .inl ⟨rfl, rfl⟩⟩, ⟨hs.faithful, hs.nodup⟩, hp⟩
    next hne =>
      cases h
      exact keep (.inr ⟨rfl, Shared.Ticketed.overtaken hp hs.nodup hne⟩)
  | asking ticket =>
    cases h
    exact keep ⟨hp, rfl⟩
  | answered ticket answer =>
    obtain ⟨hticket, rfl⟩ := hp
    simp only [step?] at h
    split at h
    next e he =>
      cases h
      exact keep (.inl (by rw [Loader.load, he, Loader.settle]))
    next body hb =>
      split at h
      · cases h
        exact keep (.inl (by rw [Loader.load, hb]))
      next hne =>
        cases h
        exact keep (.inr ⟨rfl, hticket.overtaken hs.nodup hne⟩)
  | decided outcome =>
    simp only [step?] at h
    split at h
    next e =>
      cases h
      refine ⟨⟨.refl _, .inl ⟨rfl, rfl⟩⟩, ⟨hs.faithful, hs.nodup⟩, ?_⟩
      rcases hp with hp | ⟨hp, ho⟩
      · exact .inl hp.symm
      · cases hp
        exact .inr ⟨rfl, ho⟩
    next shard =>
      cases h
      refine ⟨⟨.refl _, .inl ⟨rfl, rfl⟩⟩, ⟨hs.faithful, hs.nodup⟩, ?_⟩
      rcases hp with hp | ⟨hp, -⟩
      · exact hp.symm
      · cases hp
  | loaded shard =>
    cases h
    have hl : l.load source (.ofChar first) = .ok shard := hp
    exact ⟨⟨.insertBucket .., .inl ⟨rfl, rfl⟩⟩, ⟨hs.faithful.insertBucket hl, hs.nodup⟩,
      (Store.isFetched_insertBucket ..).mpr (.inr rfl)⟩
  | finished => cases h

end

/-! ## Searches -/

/-- What holds of call `i` at each stage of searching a term. A search that has returned is answered
like the index unless it was overtaken; nothing is said of shadowed letters. -/
def Stage.Sound (l : Loader) (least : Nat) (source : Source) (s : Shared) (i : Nat) (term : String) :
    Stage → Prop
  | .called => i ∉ s.takers
  | .looking first rest | .missed first rest => Engine.Asks least term first rest ∧ i ∉ s.takers
  | .loading first rest phase =>
    Engine.Asks least term first rest ∧ phase.Sound l source s i (.ofChar first)
  | .ready first rest => Engine.Asks least term first rest ∧
    (s.store.contains first = true ∨ s.store.isFetched (.ofChar first) = true)
  | .done result => (∀ c ∈ (Text.lower term.toList).head?, ¬ l.Shadows source c) →
    result = Engine.direct l least source term ∨
      ∃ first rest, Engine.Asks least term first rest ∧
        result = .error (.unavailable (Bucket.ofChar first).name (.superseded (l.resource (.ofChar first)))) ∧
        s.Overtaken i

section

variable {l : Loader} {least : Nat} {source : Source}

theorem Stage.Sound.mono {i j : Nat} {s s' : Shared} {term : String} {stage : Stage}
    (h : stage.Sound l least source s j term) (hij : j ≠ i) (hg : s.Grows i s') :
    stage.Sound l least source s' j term := by
  cases stage with
  | called => exact hg.not_mem hij h
  | looking | missed => exact ⟨h.1, hg.not_mem hij h.2⟩
  | loading => exact ⟨h.1, h.2.mono hij hg⟩
  | ready => exact ⟨h.1, h.2.imp hg.store.contains hg.store.isFetched⟩
  | done =>
    intro hs
    refine (h hs).imp_right ?_
    rintro ⟨first, rest, hq, hr, ho⟩
    exact ⟨first, rest, hq, hr, hg.overtaken ho⟩

theorem Stage.loading_step {i : Nat} {s s' : Shared} {term : String} {first : Char} {rest : List Char}
    {p : Phase} {stage' : Stage} (hs : s.Good l source) (hq : Engine.Asks least term first rest)
    (hp : p.Sound l source s i (.ofChar first))
    (h : (loading first rest p).step? l least source i term s = some (s', stage')) :
    s.Grows i s' ∧ s'.Good l source ∧ stage'.Sound l least source s' i term := by
  by_cases hfin : ∃ outcome, p = .finished outcome
  · obtain ⟨outcome, rfl⟩ := hfin
    cases outcome with
    | ok added =>
      cases h
      exact ⟨.refl i s, hs, hq, .inr hp⟩
    | error cause =>
      cases h
      refine ⟨.refl i s, hs, fun _ => ?_⟩
      rcases hp with hl | ⟨rfl, ho⟩
      · exact .inl (by rw [Engine.direct_of_asks hq, hl])
      · exact .inr ⟨first, rest, hq, rfl, ho⟩
  · have hstep : ∃ p', p.step? l source i (.ofChar first) s = some (s', p') ∧
        stage' = .loading first rest p' := by
      rw [step?] at h
      · split at h
        · cases h
        next hp' =>
          cases h
          exact ⟨_, hp', rfl⟩
      · exact fun outcome hout => hfin ⟨outcome, hout⟩
    obtain ⟨p', hp', rfl⟩ := hstep
    obtain ⟨hg, hs', hsound⟩ := p.step?_sound hs hp hp'
    exact ⟨hg, hs', hq, hsound⟩

theorem Stage.step?_sound {i : Nat} {s s' : Shared} {term : String} {stage stage' : Stage}
    (hs : s.Good l source) (hst : stage.Sound l least source s i term)
    (h : stage.step? l least source i term s = some (s', stage')) :
    s.Grows i s' ∧ s'.Good l source ∧ stage'.Sound l least source s' i term := by
  have keep : ∀ {q : Stage}, q.Sound l least source s i term →
      s.Grows i s ∧ s.Good l source ∧ q.Sound l least source s i term :=
    fun hq => ⟨.refl i s, hs, hq⟩
  cases stage with
  | called =>
    simp only [step?] at h
    split at h
    next first rest hlow =>
      split at h
      next hle =>
        cases h
        exact keep ⟨⟨hlow, hle⟩, hst⟩
      next hle =>
        cases h
        refine keep fun _ => .inl ?_
        simp only [Engine.direct, hlow, if_neg hle]
    next hlow =>
      cases h
      refine keep fun _ => .inl ?_
      simp only [Engine.direct, hlow]
  | looking first rest =>
    simp only [step?] at h
    split at h
    next hc =>
      cases h
      exact keep ⟨hst.1, .inl hc⟩
    next =>
      cases h
      exact keep hst
  | missed first rest =>
    simp only [step?] at h
    split at h
    next hf =>
      cases h
      exact keep ⟨hst.1, .inr hf⟩
    next =>
      cases h
      exact keep hst
  | loading first rest p => exact loading_step hs hst.1 hst.2 h
  | ready first rest =>
    cases h
    refine keep fun hsh => .inl ?_
    exact hs.faithful.lookIn_eq hst.1 (hsh first (by simp [hst.1.lower])) hst.2
  | done => cases h

end

namespace Searches

variable {l : Loader} {least : Nat} {source : Source}

/-- What holds at every moment of a run. -/
structure Sound (l : Loader) (least : Nat) (source : Source) (s : Searches) : Prop where
  shared : s.toShared.Good l source
  calls : ∀ {i : Nat} {term : String} {stage : Stage}, s.calls[i]? = some (term, stage) →
    stage.Sound l least source s.toShared i term

theorem start_sound (issued : UInt64) (terms : List String) :
    Sound l least source (start .empty issued terms) where
  shared := ⟨.empty, .nil⟩
  calls {i term stage} h := by
    obtain rfl := Calls.stage_of_start h
    exact List.not_mem_nil

theorem turn_sound {s : Searches} (hs : s.Sound l least source) (i : Nat) :
    Sound l least source (s.turn (.searches l least) source i) := by
  rcases s.turn_cases (.searches l least) source i with heq | ⟨term, stage, s', stage', hc, hstep, heq⟩
  · rw [heq]
    exact hs
  rw [heq]
  obtain ⟨hg, hgood, hsound⟩ := stage.step?_sound hs.shared (hs.calls hc) hstep
  -- The call that moved is sound by its step, the others because the shared state only grew.
  refine ⟨hgood, fun {j term' stage''} hj => ?_⟩
  rcases Calls.getElem?_set_call hc hj with ⟨rfl, rfl, rfl⟩ | ⟨hij, hj⟩
  · exact hsound
  · exact (hs.calls hj).mono hij hg

theorem run_sound {s : Searches} (hs : s.Sound l least source) (schedule : List Nat) :
    Sound l least source (s.run (.searches l least) source schedule) :=
  Calls.run_invariant (P := Sound l least source) (fun _ i hs => turn_sound hs i) hs schedule

/-- **Searches that overlap are safe.** For any terms searched at once on a session with nothing
stored, and any schedule, a search that has returned, shadowed letters apart, gives the answer of
the index itself, or says that its bucket's load was superseded; the latter only if another search
took a ticket after this one took its own. -/
theorem overlapping_search (l : Loader) (least : Nat) (source : Source) (issued : UInt64)
    (terms : List String) (schedule : List Nat) (i : Nat) (term : String)
    (result : Except SearchError Matches)
    (hdone : ((start .empty issued terms).run (.searches l least) source schedule).calls[i]? =
      some (term, .done result))
    (hs : ∀ c ∈ (Text.lower term.toList).head?, ¬ l.Shadows source c) :
    result = Engine.direct l least source term ∨
      ∃ first rest, Engine.Asks least term first rest ∧
        result = .error (.unavailable (Bucket.ofChar first).name (.superseded (l.resource (.ofChar first)))) ∧
        ((start .empty issued terms).run (.searches l least) source schedule).Overtaken i :=
  (run_sound (start_sound issued terms) schedule).calls hdone hs

/-- Two searches that miss the tree and take a ticket each, before the first one gets the slot. -/
def overtakenCat : Searches :=
  (start .empty 0 ["cat", "catalog"]).run (.searches (.ofExtension "js") 2) .cats
    ([0, 0, 0, 0, 1, 1, 1, 1] ++ List.replicate 4 0 ++ List.replicate 8 1)

/-- The first search is superseded when it gets the slot; the second one makes its request and has the
answer of the index. -/
theorem overlapping_search_cats :
    (∀ c, ¬ (Loader.ofExtension "js").Shadows .cats c) ∧
    overtakenCat.calls[0]? = some ("cat", .done (.error (.unavailable "c" (.superseded "c.js")))) ∧
    overtakenCat.Overtaken 0 ∧
    overtakenCat.calls[1]? = some ("catalog", .done (.ok ⟨[⟨"docB"⟩], []⟩)) ∧
    Engine.direct (.ofExtension "js") 2 .cats "catalog" = .ok ⟨[⟨"docB"⟩], []⟩ ∧
    overtakenCat.requests = ["c.js"] := by
  have hfirst : overtakenCat.calls[0]? = some ("cat", .done (.error (.unavailable "c" (.superseded "c.js")))) := by
    cbv
  have hsecond : overtakenCat.calls[1]? = some ("catalog", .done (.ok ⟨[⟨"docB"⟩], []⟩)) := by cbv
  refine ⟨Loader.not_shadows_cats, hfirst, ?_, hsecond, ?_, by cbv⟩
  · rcases overlapping_search _ _ _ _ _ _ _ _ _ hfirst fun c _ => Loader.not_shadows_cats c with
      hr | ⟨_, _, _, _, ho⟩
    · exact absurd hr.symm (Engine.direct_ne_superseded _ _ _ _ _ _)
    · exact ho
  · rcases overlapping_search _ _ _ _ _ _ _ _ _ hsecond fun c _ => Loader.not_shadows_cats c with
      hr | ⟨_, _, _, hr, _⟩
    · exact hr.symm
    · cases hr

end Searches

end ShardSearch
