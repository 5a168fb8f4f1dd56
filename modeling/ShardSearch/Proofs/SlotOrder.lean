/-
Tickets and the request slot, whatever the index answers and whatever is in the store.

`Phase.Moves` lists the steps of a load with their guards; everything else is read off that list.
`Orderly` is the invariant of loads that overlap: the call at a phase inside the slot is the one that
the loader names as its holder, and the ticket at a phase counts from the place of the call among
those that took one. A step of one call keeps it (`Orderly.move`). It speaks of a list of phases, so
every run of calls keeps it whose steps are steps of their loads (`Machine.Follows`): loads alone, and
the loads of searches.
-/
import ShardSearch.Proofs.SearchOverlap

namespace ShardSearch

/-! ## Steps -/

/-- The steps of call `i`, which loads a bucket: its phase and the shared state before and after. -/
inductive Phase.Moves (l : Loader) (source : Source) (i : Nat) (b : Bucket) (s : Shared) :
    Phase → Shared → Phase → Prop
  | take : Moves l source i b s .ready
      { s with issued := s.issued + 1, takers := s.takers ++ [i] } (.queued (s.issued + 1))
  | enter {ticket : UInt64} : s.holder = none →
    Moves l source i b s (.queued ticket) { s with holder := some i } (.holding ticket)
  | ask {ticket : UInt64} : s.issued = ticket →
    Moves l source i b s (.holding ticket) { s with requests := s.requests ++ [l.resource b] } (.asking ticket)
  | yield {ticket : UInt64} : s.issued ≠ ticket →
    Moves l source i b s (.holding ticket) s (.decided (.error (.superseded (l.resource b))))
  | answer {ticket : UInt64} :
    Moves l source i b s (.asking ticket) s (.answered ticket (source.fetch (l.resource b)))
  | refuse {ticket : UInt64} {e : FetchError} :
    Moves l source i b s (.answered ticket (.error e)) s (.decided (.error (.fetch e)))
  | settle {ticket : UInt64} {body : String} : s.issued = ticket →
    Moves l source i b s (.answered ticket (.ok body)) s (.decided (l.settle b (.ok body)))
  | drop {ticket : UInt64} {body : String} : s.issued ≠ ticket →
    Moves l source i b s (.answered ticket (.ok body)) s (.decided (.error (.superseded (l.resource b))))
  | fail {e : LoadError} :
    Moves l source i b s (.decided (.error e)) { s with holder := none } (.finished (.error e))
  | release {shard : Shard} :
    Moves l source i b s (.decided (.ok shard)) { s with holder := none } (.loaded shard)
  | store {shard : Shard} :
    Moves l source i b s (.loaded shard) { s with store := (s.store.insertBucket b (shard.trees b)).1 }
      (.finished (.ok (s.store.insertBucket b (shard.trees b)).2))

section

variable {l : Loader} {source : Source} {i : Nat} {b : Bucket} {s s' : Shared} {p p' : Phase}

theorem Phase.step?_eq_some_iff :
    p.step? l source i b s = some (s', p') ↔ Moves l source i b s p s' p' := by
  constructor
  · intro h
    cases p with
    | ready => cases h; exact .take
    | queued ticket =>
      simp only [step?] at h
      split at h
      next hfree => cases h; exact .enter (Option.isNone_iff_eq_none.mp hfree)
      next => cases h
    | holding ticket =>
      simp only [step?] at h
      split at h
      next hnew => cases h; exact .ask hnew
      next hold => cases h; exact .yield hold
    | asking ticket => cases h; exact .answer
    | answered ticket answer =>
      cases answer with
      | error e => cases h; exact .refuse
      | ok body =>
        simp only [step?] at h
        split at h
        next hnew => cases h; exact .settle hnew
        next hold => cases h; exact .drop hold
    | decided outcome =>
      cases outcome with
      | error e => cases h; exact .fail
      | ok shard => cases h; exact .release
    | loaded shard => cases h; exact .store
    | finished => cases h
  · intro h
    cases h with
    | enter hfree => simp [step?, hfree]
    | ask hnew | settle hnew => simp [step?, hnew]
    | yield hold | drop hold => simp [step?, hold]
    | take | answer | refuse | fail | release | store => rfl

theorem Phase.Moves.grows (h : Moves l source i b s p s' p') : s.Grows i s' := by
  cases h with
  | take => exact ⟨.refl _, .inr ⟨rfl, rfl⟩⟩
  | store => exact ⟨.insertBucket .., .inl ⟨rfl, rfl⟩⟩
  | enter | ask | yield | answer | refuse | settle | drop | fail | release => exact ⟨.refl _, .inl ⟨rfl, rfl⟩⟩

end

/-! ## The place of a call -/

/-- The ticket that a call may still have to compare. -/
def Phase.ticket? : Phase → Option UInt64
  | .queued ticket | .holding ticket | .asking ticket | .answered ticket _ => some ticket
  | .ready | .decided _ | .loaded _ | .finished _ => none

/-- Whether a call is inside the slot. -/
def Phase.inSlot : Phase → Bool
  | .holding _ | .asking _ | .answered _ _ | .decided _ => true
  | .ready | .queued _ | .loaded _ | .finished _ => false

/-- A call at a phase is where the shared state says it is. -/
structure Phase.Placed (s : Shared) (i : Nat) (p : Phase) : Prop where
  slot : s.holder = some i ↔ p.inSlot = true
  ticket : ∀ {t}, p.ticket? = some t → s.Ticketed i t
  unticketed : p = .ready → i ∉ s.takers

namespace Phase

variable {l : Loader} {source : Source} {i j : Nat} {b : Bucket} {s s' : Shared} {p p' q : Phase}

theorem Placed.move (h : p.Placed s i) (hm : Moves l source i b s p s' p') : p'.Placed s' i := by
  have hticket : ∀ {t}, p.ticket? = some t → s'.Ticketed i t := fun ht => hm.grows.ticketed (h.ticket ht)
  cases hm with
  | take =>
    refine ⟨h.slot, fun ht => ?_, by simp⟩
    cases ht
    exact ⟨s.takers, [], rfl, by simp⟩
  | enter => exact ⟨by simp [inSlot], hticket, by simp⟩
  | ask | answer => exact ⟨h.slot, hticket, by simp⟩
  | yield | refuse | settle | drop => exact ⟨h.slot, by simp [ticket?], by simp⟩
  | fail | release => exact ⟨by simp [inSlot], by simp [ticket?], by simp⟩
  | store => exact ⟨h.slot, by simp [ticket?], by simp⟩

/-- The slot goes from call to call only by way of being free. -/
theorem Placed.holder_other (h : p.Placed s i) (hm : Moves l source i b s p s' p') (hij : j ≠ i) :
    s'.holder = some j ↔ s.holder = some j := by
  have hne : ¬ i = j := fun h => hij h.symm
  cases hm with
  | enter hfree => simp [hfree, hne]
  | fail | release => simp [h.slot.mpr rfl, hne]
  | take | ask | yield | answer | refuse | settle | drop | store => exact Iff.rfl

theorem Placed.other (h : p.Placed s i) (hm : Moves l source i b s p s' p') (hij : j ≠ i)
    (hq : q.Placed s j) : q.Placed s' j where
  slot := (h.holder_other hm hij).trans hq.slot
  ticket ht := hm.grows.ticketed (hq.ticket ht)
  unticketed hr := hm.grows.not_mem hij (hq.unticketed hr)

/-- A call whose load is over, or never began, holds nothing. -/
theorem Placed.finish (h : p.Placed s i) (hout : p.inSlot = false) (outcome : Except LoadError Nat) :
    (finished outcome).Placed s i :=
  ⟨by rw [h.slot, hout, inSlot], by simp [ticket?], by simp⟩

end Phase

/-! ## All calls together -/

namespace Shared

/-- Loads at some phases are in order: no call took two tickets, and each is in its place. -/
structure Orderly (s : Shared) (phases : List Phase) : Prop where
  nodup : s.takers.Nodup
  known : ∀ i ∈ s.takers, i < phases.length
  held : ∀ i, s.holder = some i → i < phases.length
  placed : ∀ {i : Nat} {p : Phase}, phases[i]? = some p → p.Placed s i

variable {s s' : Shared} {phases : List Phase} {i j : Nat} {p q p' : Phase}

theorem Orderly.start (store : Store) (issued : UInt64) (count : Nat) :
    (Shared.start store issued).Orderly (List.replicate count .ready) where
  nodup := .nil
  known := by simp [Shared.start]
  held := by simp [Shared.start]
  placed {i p} h := by
    obtain ⟨-, rfl⟩ := List.mem_replicate.mp (List.mem_of_getElem? h)
    exact ⟨by simp [Shared.start, Phase.inSlot], by simp [Phase.ticket?], by simp [Shared.start]⟩

theorem Orderly.set (h : s.Orderly phases) (hi : phases[i]? = some p) (hnodup : s'.takers.Nodup)
    (hknown : ∀ j ∈ s'.takers, j ∈ s.takers ∨ j = i)
    (hheld : ∀ j, s'.holder = some j → s.holder = some j ∨ j = i) (hp : p'.Placed s' i)
    (hother : ∀ {j : Nat} {q : Phase}, j ≠ i → q.Placed s j → q.Placed s' j) : s'.Orderly (phases.set i p') where
  nodup := hnodup
  known j hj := by
    rw [List.length_set]
    rcases hknown j hj with hj | rfl
    · exact h.known j hj
    · exact (List.getElem?_eq_some_iff.mp hi).1
  held j hj := by
    rw [List.length_set]
    rcases hheld j hj with hj | rfl
    · exact h.held j hj
    · exact (List.getElem?_eq_some_iff.mp hi).1
  placed {j q} hj := by
    by_cases hij : j = i
    · subst hij
      rw [List.getElem?_set_self (List.getElem?_eq_some_iff.mp hi).1] at hj
      cases hj
      exact hp
    · rw [List.getElem?_set_ne (Ne.symm hij)] at hj
      exact hother hij (h.placed hj)

/-- **A step of one call keeps all calls in order.** -/
theorem Orderly.move {l : Loader} {source : Source} {b : Bucket} (h : s.Orderly phases)
    (hi : phases[i]? = some p) (hm : Phase.Moves l source i b s p s' p') : s'.Orderly (phases.set i p') := by
  have hplaced := h.placed hi
  refine h.set hi ?_ ?_ ?_ (hplaced.move hm) (fun hij hq => hplaced.other hm hij hq)
  · rcases hm.grows.tickets with ⟨ht, -⟩ | ⟨ht, -⟩
    · rw [ht]
      exact h.nodup
    · have hready : p = .ready := by
        cases hm with
        | take => rfl
        | enter | ask | yield | answer | refuse | settle | drop | fail | release | store => simp at ht
      rw [ht, ← List.concat_eq_append]
      exact (List.nodup_concat _ _).mpr ⟨hplaced.unticketed hready, h.nodup⟩
  · intro j hj
    rcases hm.grows.tickets with ⟨ht, -⟩ | ⟨ht, -⟩
    · exact .inl (ht ▸ hj)
    · simpa [ht] using hj
  · intro j hj
    by_cases hij : j = i
    · exact .inr hij
    · exact .inl ((hplaced.holder_other hm hij).mp hj)

/-- Only one call is inside the slot. -/
theorem Orderly.inSlot_unique (h : s.Orderly phases) (hi : phases[i]? = some p) (hj : phases[j]? = some q)
    (hp : p.inSlot = true) (hq : q.inSlot = true) : i = j := by
  have hhi := (h.placed hi).slot.mpr hp
  have hhj := (h.placed hj).slot.mpr hq
  simpa [hhi] using hhj

theorem Orderly.length_takers (h : s.Orderly phases) : s.takers.length ≤ phases.length := by
  have hsub : s.takers ⊆ List.range phases.length := fun i hi => List.mem_range.mpr (h.known i hi)
  simpa using (h.nodup.subperm hsub).length_le

/-- With fewer tickets than the counter has values, the newest ticket is that of the last taker. -/
theorem Ticketed.newest_iff {t : UInt64} (h : s.Ticketed i t) (hn : s.takers.Nodup)
    (hfew : s.takers.length < UInt64.size) : s.issued = t ↔ s.takers.getLast? = some i := by
  obtain ⟨before, after, htakers, hissued⟩ := h
  constructor
  · intro heq
    have hzero : UInt64.ofNat after.length = 0 := UInt64.add_eq_left.mp (hissued.symm.trans heq)
    have hlt : after.length < UInt64.size := by
      rw [htakers, List.length_append, List.length_cons] at hfew
      omega
    have hlen : after.length = 0 := by
      have htoNat := congrArg UInt64.toNat hzero
      rwa [UInt64.toNat_ofNat_of_lt' hlt] at htoNat
    rw [htakers, List.eq_nil_of_length_eq_zero hlen, List.getLast?_concat]
  · intro hlast
    rcases List.eq_nil_or_concat after with rfl | ⟨after, j, rfl⟩
    · simp [hissued]
    · have hji : j = i := by
        rw [htakers] at hlast
        simpa [List.getLast?_cons] using hlast
      rw [htakers, List.nodup_append] at hn
      have hnot := (List.nodup_cons.mp hn.2.1).1
      simp [hji] at hnot

end Shared

/-! ## Runs -/

/-- The calls of a machine move like loads, each of which stands at a phase: a step is one of the load,
or it changes nothing that is shared and gives the load up, at most, which is then not in the slot. -/
def Machine.Follows {κ σ : Type} (m : Machine κ σ) (l : Loader) (phase : σ → Phase) : Prop :=
  ∀ {source : Source} {i : Nat} {arg : κ} {s s' : Shared} {stage stage' : σ},
    m.step? source i arg s stage = some (s', stage') →
    (∃ b, Phase.Moves l source i b s (phase stage) s' (phase stage')) ∨
      s' = s ∧ (phase stage' = phase stage ∨
        (phase stage).inSlot = false ∧ ∃ outcome, phase stage' = .finished outcome)

namespace Calls

variable {κ σ : Type} {m : Machine κ σ} {l : Loader} {phase : σ → Phase} {s : Calls κ σ}

theorem start_orderly {first : σ} (hready : phase first = .ready) (store : Store) (issued : UInt64) (args : List κ) :
    (Shared.start store issued).Orderly (phases phase ⟨.start store issued, args.map fun a => (a, first)⟩) := by
  have hphases : phases phase ⟨.start store issued, args.map fun a => (a, first)⟩ =
      List.replicate args.length .ready := by
    simp [phases, Function.comp_def, hready, List.map_const']
  rw [hphases]
  exact .start store issued _

/-- Fewer calls than there are tickets have taken fewer tickets. -/
theorem few_takers (h : s.toShared.Orderly (s.phases phase)) (hfew : s.calls.length < UInt64.size) :
    s.takers.length < UInt64.size := by
  have hle := h.length_takers
  rw [length_phases] at hle
  omega

/-- **A turn keeps all calls in order.** -/
theorem turn_orderly (hm : m.Follows l phase) (h : s.toShared.Orderly (s.phases phase)) (source : Source)
    (i : Nat) : (s.turn m source i).toShared.Orderly ((s.turn m source i).phases phase) := by
  rcases turn_cases m source s i with heq | ⟨arg, stage, s', stage', hc, hstep, heq⟩
  · rw [heq]
    exact h
  rw [heq, phases_set]
  have hi := phases_of_call phase hc
  have hplaced := h.placed hi
  -- A step outside the load changes nothing that is shared.
  have quiet : s' = s.toShared → (phase stage').Placed s.toShared i →
      s'.Orderly ((s.phases phase).set i (phase stage')) := by
    rintro rfl hplaced'
    exact h.set hi h.nodup (fun _ => .inl) (fun _ => .inl) hplaced' fun _ => id
  rcases hm hstep with ⟨b, hmoves⟩ | ⟨hsame, hkept | ⟨hout, outcome, hgiven⟩⟩
  · exact h.move hi hmoves
  · exact quiet hsame (by rwa [hkept])
  · exact quiet hsame (by rw [hgiven]; exact hplaced.finish hout outcome)

end Calls

end ShardSearch
