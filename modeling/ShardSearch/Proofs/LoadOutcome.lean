/-
What overlapping loads come to.

The moments of a run are the states after its first turns. `arrived` finds the moment at which a call
came to where it stands, so the outcome of a load can be followed back: to the check after its answer,
at which nobody had taken a ticket behind it, to its request, and to what the index gave it then.
`protocol` puts this together with the order of tickets and slot.
-/
import ShardSearch.Proofs.LoadOverlap

namespace ShardSearch.Loads

/-! ## Moments of a run -/

/-- Fewer loads than there are tickets, none of which has moved. -/
structure Fresh (s : Loads) : Prop where
  orderly : s.Orderly
  ready : ∀ {i : Nat} {b : Bucket} {p : Phase}, s.calls[i]? = some (b, p) → p = .ready
  few : s.calls.length < UInt64.size

theorem start_fresh (store : Store) {buckets : List Bucket} (hfew : buckets.length < UInt64.size) :
    Fresh (start store buckets) where
  orderly := start_orderly store buckets
  ready h := Calls.stage_of_start h
  few := by simpa [start] using hfew

section

variable {l : Loader} {s : Loads} {i : Nat} {b : Bucket} {p : Phase} {turns : List (Source × Nat)}

theorem Fresh.orderly_play (hs : s.Fresh) (l : Loader) (turns : List (Source × Nat)) :
    Orderly (s.play (.loads l) turns) :=
  play_orderly hs.orderly l turns

theorem Fresh.few_play (hs : s.Fresh) (l : Loader) (turns : List (Source × Nat)) :
    (s.play (.loads l) turns).calls.length < UInt64.size := by
  rw [Calls.length_calls_play]
  exact hs.few

/-- A call that stands elsewhere than at the start came there by a step at some moment. -/
theorem arrived (hs : s.Fresh) (h : (s.play (.loads l) turns).calls[i]? = some (b, p)) (hp : p ≠ .ready) :
    ∃ before source after q s', turns = before ++ (source, i) :: after ∧
      (s.play (.loads l) before).calls[i]? = some (b, q) ∧
      Phase.Moves l source i b (s.play (.loads l) before).toShared q s' p := by
  induction turns using List.reverseRecOn with
  | nil => exact absurd (hs.ready h) hp
  | append_singleton turns turn ih =>
    obtain ⟨source, j⟩ := turn
    rw [Calls.play_concat] at h
    have earlier : (s.play (.loads l) turns).calls[i]? = some (b, p) →
        ∃ before source' after q s', turns ++ [(source, j)] = before ++ (source', i) :: after ∧
          (s.play (.loads l) before).calls[i]? = some (b, q) ∧
          Phase.Moves l source' i b (s.play (.loads l) before).toShared q s' p := by
      intro hc
      obtain ⟨before, source', after, q, s', rfl, hq, hm⟩ := ih hc
      exact ⟨before, source', after ++ [(source, j)], q, s', by simp, hq, hm⟩
    rcases turn_moves l source (s.play (.loads l) turns) j with heq | ⟨b', q, s', p', hc, hm, heq⟩
    · rw [heq] at h
      exact earlier h
    · rw [heq] at h
      rcases Calls.getElem?_set_call hc h with ⟨rfl, rfl, rfl⟩ | ⟨-, hi⟩
      · exact ⟨turns, source, [], q, s', rfl, hc, hm⟩
      · exact earlier hi

/-- Call `i`, which loads a bucket, came to an outcome in a run. All it does after that is to hand the
outcome out. -/
def Decided (l : Loader) (s : Loads) (turns : List (Source × Nat)) (i : Nat) (b : Bucket)
    (outcome : Except LoadError Shard) : Prop :=
  ∃ before after, turns = before ++ after ∧ (s.play (.loads l) before).calls[i]? = some (b, .decided outcome)

/-- Where an outcome comes from: the ticket was not the newest any more, or the load had its answer. -/
theorem decided_cases (hs : s.Fresh) {outcome : Except LoadError Shard}
    (h : (s.play (.loads l) turns).calls[i]? = some (b, .decided outcome)) :
    ∃ before source after q, turns = before ++ (source, i) :: after ∧
      (s.play (.loads l) before).calls[i]? = some (b, q) ∧
      ((outcome = .error (.superseded (l.resource b)) ∧
          ∃ t, q.ticket? = some t ∧ (s.play (.loads l) before).issued ≠ t) ∨
        ∃ t answer, q = .answered t answer ∧ outcome = l.settle b answer ∧
          ((∃ e, answer = .error e) ∨ (s.play (.loads l) before).issued = t)) := by
  obtain ⟨before, source, after, q, s', heq, hq, hm⟩ := arrived hs h (by simp)
  refine ⟨before, source, after, q, heq, hq, ?_⟩
  cases hm with
  | yield hold => exact .inl ⟨rfl, _, rfl, hold⟩
  | drop hold => exact .inl ⟨rfl, _, rfl, hold⟩
  | refuse => exact .inr ⟨_, _, rfl, rfl, .inl ⟨_, rfl⟩⟩
  | settle hnew => exact .inr ⟨_, _, rfl, rfl, .inr hnew⟩

/-- An answer is what the index gave at the moment of the request. -/
theorem answered_cases (hs : s.Fresh) {t : UInt64} {answer : Except FetchError String}
    (h : (s.play (.loads l) turns).calls[i]? = some (b, .answered t answer)) :
    ∃ before source after, turns = before ++ (source, i) :: after ∧
      (s.play (.loads l) before).calls[i]? = some (b, .asking t) ∧ answer = source.fetch (l.resource b) := by
  obtain ⟨before, source, after, q, s', heq, hq, hm⟩ := arrived hs h (by simp)
  cases hm
  exact ⟨before, source, after, heq, hq, rfl⟩

/-- A load that comes to a shard, or finds its answer malformed, had the newest ticket when it checked. -/
theorem checked_of_decided (hs : s.Fresh) {outcome : Except LoadError Shard}
    (h : s.Decided l turns i b outcome)
    (hout : (∃ shard, outcome = .ok shard) ∨ ∃ resource f, outcome = .error (.decode resource f)) :
    ∃ before source after t body, turns = before ++ (source, i) :: after ∧
      (s.play (.loads l) before).calls[i]? = some (b, .answered t (.ok body)) ∧
      (s.play (.loads l) before).takers.getLast? = some i ∧ outcome = l.settle b (.ok body) := by
  obtain ⟨upto, rest, rfl, hdecided⟩ := h
  obtain ⟨before, source, after, q, rfl, hq, ⟨rfl, -⟩ | ⟨t, answer, rfl, rfl, hnew⟩⟩ := decided_cases hs hdecided
  · simp at hout
  · cases answer with
    | error e => simp [Loader.settle] at hout
    | ok body =>
      have hissued := hnew.resolve_left (by simp)
      have hlast := ((hs.orderly_play l before).newest_iff (hs.few_play l before) hq rfl).mp hissued
      exact ⟨before, source, after ++ rest, t, body, by simp, hq, hlast, rfl⟩

/-! ## The greatest ticket -/

theorem takers_turn (l : Loader) (source : Source) (s : Loads) (i : Nat) :
    s.takers <+: (s.turn (.loads l) source i).takers := by
  rcases turn_moves l source s i with heq | ⟨b, p, s', p', -, hm, heq⟩
  · rw [heq]
  · rw [heq]
    rcases hm.grows.tickets with ⟨ht, -⟩ | ⟨ht, -⟩
    · simp [ht]
    · simp [ht]

theorem takers_play (l : Loader) (s : Loads) (turns : List (Source × Nat)) :
    s.takers <+: (s.play (.loads l) turns).takers :=
  Calls.play_invariant (P := fun s' => s.takers <+: s'.takers)
    (fun s' source i h => h.trans (takers_turn l source s' i)) List.prefix_rfl turns

/-- The last call to take a ticket had the newest one at every moment. -/
theorem newest_of_last (hs : s.Fresh) {before after : List (Source × Nat)} {t : UInt64}
    (hlast : (s.play (.loads l) (before ++ after)).takers.getLast? = some i)
    (hc : (s.play (.loads l) before).calls[i]? = some (b, p)) (ht : p.ticket? = some t) :
    (s.play (.loads l) before).issued = t := by
  have horder := hs.orderly_play l before
  rw [horder.newest_iff (hs.few_play l before) hc ht]
  obtain ⟨later, hlater⟩ := takers_play l (s.play (.loads l) before) after
  rw [← Calls.play_append] at hlater
  have hmem : i ∈ (s.play (.loads l) before).takers := by
    obtain ⟨_, _, htakers, -⟩ := (horder.shared.placed (Calls.phases_of_call id hc)).ticket ht
    simp [htakers]
  -- A later taker would be the last one, or the call would have taken two tickets.
  rcases List.eq_nil_or_concat later with rfl | ⟨later, j, rfl⟩
  · rw [← hlast, ← hlater, List.append_nil]
  · rw [← hlater, List.concat_eq_append, ← List.append_assoc, List.getLast?_concat, Option.some.injEq] at hlast
    subst hlast
    have hnodup := (hs.orderly_play l (before ++ after)).shared.nodup
    rw [← hlater, List.nodup_append] at hnodup
    exact absurd rfl (hnodup.2.2 j hmem j (by simp))

/-- The last call to take a ticket comes to what its own request gives. -/
theorem decided_of_last (hs : s.Fresh) (hlast : (s.play (.loads l) turns).takers.getLast? = some i)
    {outcome : Except LoadError Shard} (h : s.Decided l turns i b outcome) :
    ∃ before source after t, turns = before ++ (source, i) :: after ∧
      (s.play (.loads l) before).calls[i]? = some (b, .asking t) ∧ outcome = l.load source b := by
  obtain ⟨upto, rest, rfl, hdecided⟩ := h
  obtain ⟨before, source, after, q, rfl, hq, ⟨-, t, ht, hold⟩ | ⟨t, answer, rfl, rfl, -⟩⟩ :=
    decided_cases hs hdecided
  · rw [List.append_assoc] at hlast
    exact absurd (newest_of_last hs hlast hq ht) hold
  · obtain ⟨earlier, source', between, rfl, hasking, rfl⟩ := answered_cases hs hq
    exact ⟨earlier, source', between ++ (source, i) :: after ++ rest, t, by simp, hasking, rfl⟩

/-! ## Returning and storing -/

theorem decided_of_loaded (hs : s.Fresh) {shard : Shard}
    (h : (s.play (.loads l) turns).calls[i]? = some (b, .loaded shard)) :
    s.Decided l turns i b (.ok shard) := by
  obtain ⟨before, source, after, q, s', rfl, hq, hm⟩ := arrived hs h (by simp)
  cases hm
  exact ⟨before, _, rfl, hq⟩

theorem decided_of_failed (hs : s.Fresh) {e : LoadError}
    (h : (s.play (.loads l) turns).calls[i]? = some (b, .finished (.error e))) :
    s.Decided l turns i b (.error e) := by
  obtain ⟨before, source, after, q, s', rfl, hq, hm⟩ := arrived hs h (by simp)
  cases hm
  exact ⟨before, _, rfl, hq⟩

theorem decided_of_stored (hs : s.Fresh) {added : Nat}
    (h : (s.play (.loads l) turns).calls[i]? = some (b, .finished (.ok added))) : ∃ shard before source after,
      s.Decided l turns i b (.ok shard) ∧ turns = before ++ (source, i) :: after ∧
      (s.play (.loads l) before).calls[i]? = some (b, .loaded shard) ∧
      added = ((s.play (.loads l) before).store.insertBucket b (shard.trees b)).2 := by
  obtain ⟨before, source, after, q, s', rfl, hq, hm⟩ := arrived hs h (by simp)
  cases hm with
  | @store shard =>
    obtain ⟨upto, rest, rfl, hdecided⟩ := decided_of_loaded hs hq
    refine ⟨shard, upto ++ rest, source, after, ?_, rfl, hq, rfl⟩
    exact ⟨upto, rest ++ (source, i) :: after, by simp, hdecided⟩

/-- A turn changes the store only by a load that ends well. -/
theorem store_turn (l : Loader) (source : Source) (s : Loads) (i : Nat) :
    (s.turn (.loads l) source i).store = s.store ∨
      ∃ b added, (s.turn (.loads l) source i).calls[i]? = some (b, .finished (.ok added)) := by
  rcases turn_moves l source s i with heq | ⟨b, p, s', p', hc, hm, heq⟩
  · exact .inl (by rw [heq])
  · rw [heq]
    cases hm with
    | store => exact .inr ⟨b, _, Calls.getElem?_set_self hc _⟩
    | take | enter | ask | yield | answer | refuse | settle | drop | fail | release => exact .inl rfl

theorem finished_turn {outcome : Except LoadError Nat} (h : s.calls[i]? = some (b, .finished outcome))
    (source : Source) (j : Nat) : (s.turn (.loads l) source j).calls[i]? = some (b, .finished outcome) := by
  rcases turn_moves l source s j with heq | ⟨b', p, s', p', hc, hm, heq⟩
  · rw [heq, h]
  · rw [heq]
    by_cases hij : j = i
    · rw [hij, h] at hc
      cases hc
      cases hm
    · exact (List.getElem?_set_ne hij).trans h

theorem finished_play {outcome : Except LoadError Nat} (h : s.calls[i]? = some (b, .finished outcome))
    (turns : List (Source × Nat)) : (s.play (.loads l) turns).calls[i]? = some (b, .finished outcome) :=
  Calls.play_invariant (P := fun s' : Loads => s'.calls[i]? = some (b, .finished outcome))
    (fun _ source j h => finished_turn h source j) h turns

/-- A load that fails in the end has left the store alone at every turn. -/
theorem store_of_failed {e : LoadError} {before after : List (Source × Nat)} {source : Source}
    (hfailed : (s.play (.loads l) turns).calls[i]? = some (b, .finished (.error e)))
    (hturns : turns = before ++ (source, i) :: after) :
    (s.play (.loads l) (before ++ [(source, i)])).store = (s.play (.loads l) before).store := by
  rw [Calls.play_concat]
  rcases store_turn l source (s.play (.loads l) before) i with hsame | ⟨b', added, hdone⟩
  · exact hsame
  · have hlater := finished_play (l := l) hdone after
    rw [← Calls.play_concat, ← Calls.play_append, List.append_assoc, List.singleton_append, ← hturns,
      hfailed] at hlater
    cases hlater

/-! ## The end of a run -/

/-- A call inside the slot can always move, whatever the index answers. -/
theorem exists_moves_of_inSlot {s : Shared} (l : Loader) (source : Source) (i : Nat) (b : Bucket)
    (h : p.inSlot = true) : ∃ s' p', Phase.Moves l source i b s p s' p' := by
  cases p with
  | holding t =>
    by_cases hnew : s.issued = t
    · exact ⟨_, _, .ask hnew⟩
    · exact ⟨_, _, .yield hnew⟩
  | asking t => exact ⟨_, _, .answer⟩
  | answered t answer =>
    cases answer with
    | error e => exact ⟨_, _, .refuse⟩
    | ok body =>
      by_cases hnew : s.issued = t
      · exact ⟨_, _, .settle hnew⟩
      · exact ⟨_, _, .drop hnew⟩
  | decided outcome =>
    cases outcome with
    | error e => exact ⟨_, _, .fail⟩
    | ok shard => exact ⟨_, _, .release⟩
  | ready | queued | loaded | finished => cases h

/-- If no call can move, all are finished. -/
theorem finished_of_stuck (h : s.Orderly) (source : Source) (hstuck : ∀ i, s.step? (.loads l) source i = none)
    (hc : s.calls[i]? = some (b, p)) : ∃ outcome, p = .finished outcome := by
  have stuck : ∀ {j b q s' q'}, s.calls[j]? = some (b, q) →
      ¬ Phase.Moves l source j b s.toShared q s' q' := by
    intro j b q s' q' hj hm
    have hsome := Calls.step?_eq_some_iff (m := .loads l).mpr
      ⟨b, q, s', q', hj, Phase.step?_eq_some_iff.mpr hm, rfl⟩
    cases (hstuck j).symm.trans hsome
  have hfree : s.holder = none := by
    refine Option.eq_none_iff_forall_ne_some.mpr fun j hj => ?_
    obtain ⟨q, hq⟩ : ∃ q, (s.phases id)[j]? = some q := ⟨_, List.getElem?_eq_getElem (h.shared.held j hj)⟩
    obtain ⟨b', _, hcall, rfl⟩ := Calls.call_of_phases hq
    obtain ⟨s', q', hm⟩ := exists_moves_of_inSlot l source j b' ((h.shared.placed hq).slot.mp hj)
    exact stuck hcall hm
  have hout : ¬ p.inSlot = true := by
    intro hin
    obtain ⟨s', q', hm⟩ := exists_moves_of_inSlot l source i b hin
    exact stuck hc hm
  cases p with
  | ready => exact absurd .take (stuck hc)
  | queued t => exact absurd (.enter hfree) (stuck hc)
  | loaded shard => exact absurd .store (stuck hc)
  | finished outcome => exact ⟨outcome, rfl⟩
  | holding | asking | answered | decided => exact absurd rfl hout

/-- The steps that all calls together are from their end. -/
def distance (s : Loads) : Nat := (s.calls.map fun call => call.2.distance).sum

theorem distance_step {s' : Loads} {source : Source} (h : s.step? (.loads l) source i = some s') :
    distance s' < s.distance := by
  obtain ⟨b, p, s', p', hc, hstep, rfl⟩ := Calls.step?_eq_some_iff.mp h
  have hdown := (Phase.step?_eq_some_iff.mp hstep).distance_lt
  obtain ⟨hlt, hget⟩ := List.getElem?_eq_some_iff.mp hc
  have hsplit : s.calls = s.calls.take i ++ (b, p) :: s.calls.drop (i + 1) := by
    rw [← hget, List.getElem_cons_drop, List.take_append_drop]
  have hset : s.calls.set i (b, p') = s.calls.take i ++ (b, p') :: s.calls.drop (i + 1) := by
    rw [List.set_eq_take_append_cons_drop, if_pos hlt]
  rw [distance, distance, hset]
  conv_rhs => rw [hsplit]
  simp only [List.map_append, List.map_cons, List.sum_append, List.sum_cons]
  omega

/-- Every run can be driven to its end. -/
theorem completes (h : s.Orderly) (l : Loader) (source : Source) :
    ∃ more, ∀ (i : Nat) (b : Bucket) (p : Phase), (s.play (.loads l) more).calls[i]? = some (b, p) →
      ∃ outcome, p = .finished outcome := by
  induction hd : s.distance using Nat.strong_induction_on generalizing s with
  | _ d ih =>
  by_cases hstuck : ∀ i, s.step? (.loads l) source i = none
  · exact ⟨[], fun i b p hc => finished_of_stuck h source hstuck hc⟩
  · push Not at hstuck
    obtain ⟨i, hstep⟩ := hstuck
    obtain ⟨s', hs'⟩ := Option.ne_none_iff_exists'.mp hstep
    have hturn : s.turn (.loads l) source i = s' := by rw [Calls.turn, hs', Option.getD_some]
    have horder : Orderly s' := hturn ▸ turn_orderly h l source i
    obtain ⟨more, hmore⟩ := ih (distance s') (hd ▸ distance_step hs') horder rfl
    refine ⟨(source, i) :: more, ?_⟩
    rw [Calls.play_cons, hturn]
    exact hmore

end

/-! ## The protocol -/

/-- What holds of a run of loads. -/
structure Protocol (l : Loader) (s : Loads) (turns : List (Source × Nat)) : Prop where
  /-- At most one request is under way. -/
  oneRequest : ∀ {i j : Nat} {b b' : Bucket} {t t' : UInt64},
    (s.play (.loads l) turns).calls[i]? = some (b, .asking t) →
    (s.play (.loads l) turns).calls[j]? = some (b', .asking t') → i = j
  /-- Tickets number the loads in the order in which they took them. -/
  numbered : ∀ {i : Nat} {b : Bucket} {p : Phase} {t : UInt64},
    (s.play (.loads l) turns).calls[i]? = some (b, p) →
    p.ticket? = some t → 0 < t.toNat ∧ (s.play (.loads l) turns).takers[t.toNat - 1]? = some i
  /-- All requests that were made began by increasing tickets. -/
  increasing : (s.play (.loads l) turns).requests = s.requests ++ (begun l s turns).map Prod.snd ∧
    ((begun l s turns).map Prod.fst).Pairwise (· < ·)
  /-- A load that comes to a shard, or finds its answer malformed, has checked its ticket after the answer
  arrived, and at that moment nobody had taken a ticket after it. -/
  checked : ∀ {i : Nat} {b : Bucket} {outcome : Except LoadError Shard}, s.Decided l turns i b outcome →
    (∃ shard, outcome = .ok shard) ∨ (∃ resource f, outcome = .error (.decode resource f)) →
    ∃ before source after t body, turns = before ++ (source, i) :: after ∧
      (s.play (.loads l) before).calls[i]? = some (b, .answered t (.ok body)) ∧
      (s.play (.loads l) before).takers.getLast? = some i ∧ outcome = l.settle b (.ok body)
  /-- A load that fails changes the store at none of its turns. -/
  kept : ∀ {i : Nat} {b : Bucket} {e : LoadError} {before after : List (Source × Nat)} {source : Source},
    (s.play (.loads l) turns).calls[i]? = some (b, .finished (.error e)) →
    turns = before ++ (source, i) :: after →
    (s.play (.loads l) (before ++ [(source, i)])).store = (s.play (.loads l) before).store
  /-- The load with the greatest ticket is not superseded: it comes to what its own request gives. -/
  newest : ∀ {i : Nat}, (s.play (.loads l) turns).takers.getLast? = some i →
    ∀ {b : Bucket} {outcome : Except LoadError Shard}, s.Decided l turns i b outcome →
    (∀ resource, outcome ≠ .error (.superseded resource)) ∧
      ∃ before source after t, turns = before ++ (source, i) :: after ∧
        (s.play (.loads l) before).calls[i]? = some (b, .asking t) ∧ outcome = l.load source b
  /-- A load returns what it came to: the shard, -/
  returned : ∀ {i : Nat} {b : Bucket} {shard : Shard},
    (s.play (.loads l) turns).calls[i]? = some (b, .loaded shard) →
    s.Decided l turns i b (.ok shard)
  /-- or the error, -/
  failed : ∀ {i : Nat} {b : Bucket} {e : LoadError},
    (s.play (.loads l) turns).calls[i]? = some (b, .finished (.error e)) →
    s.Decided l turns i b (.error e)
  /-- or how many trees of the shard it added when it stored it. -/
  stored : ∀ {i : Nat} {b : Bucket} {added : Nat},
    (s.play (.loads l) turns).calls[i]? = some (b, .finished (.ok added)) →
    ∃ shard before source after, s.Decided l turns i b (.ok shard) ∧ turns = before ++ (source, i) :: after ∧
      (s.play (.loads l) before).calls[i]? = some (b, .loaded shard) ∧
      added = ((s.play (.loads l) before).store.insertBucket b (shard.trees b)).2
  /-- Nobody waits for ever: a run that cannot go on has all loads finished, -/
  noDeadlock : ∀ source : Source, (∀ i, (s.play (.loads l) turns).step? (.loads l) source i = none) →
    ∀ (i : Nat) (b : Bucket) (p : Phase), (s.play (.loads l) turns).calls[i]? = some (b, p) →
      ∃ outcome, p = .finished outcome
  /-- and every run can be driven to its end. -/
  ends : ∃ more, ∀ (i : Nat) (b : Bucket) (p : Phase),
    (s.play (.loads l) (turns ++ more)).calls[i]? = some (b, p) → ∃ outcome, p = .finished outcome

/-- **The supersession protocol.** For fewer loads than the ticket counter has values, whatever the index
answers and in whatever order the calls move and get the slot: one request at a time; requests by
increasing tickets; a shard or a malformed answer only for a load that nobody overtook before it checked
its answer, and nothing stored by one that fails; and the load with the greatest ticket returns what its
own request gave. -/
theorem protocol (l : Loader) (store : Store) (buckets : List Bucket) (turns : List (Source × Nat))
    (hfew : buckets.length < UInt64.size) : Protocol l (start store buckets) turns := by
  have hs := start_fresh store hfew
  have horder := hs.orderly_play l turns
  exact {
    oneRequest := fun hi hj =>
      horder.shared.inSlot_unique (Calls.phases_of_call id hi) (Calls.phases_of_call id hj) rfl rfl
    numbered := fun hc ht =>
      have hticket := horder.toNat_ticket (hs.few_play l turns) hc ht
      ⟨hticket.1, hticket.2.2⟩
    increasing := ⟨requests_play l _ turns, begun_increasing hs.orderly hs.few turns⟩
    checked := checked_of_decided hs
    kept := store_of_failed
    newest := fun hlast b outcome h => by
      obtain ⟨before, source, after, t, hturns, hasking, rfl⟩ := decided_of_last hs hlast h
      exact ⟨l.load_ne_superseded source b, before, source, after, t, hturns, hasking, rfl⟩
    returned := decided_of_loaded hs
    failed := decided_of_failed hs
    stored := decided_of_stored hs
    noDeadlock := fun source hstuck i b p hc => finished_of_stuck horder source hstuck hc
    ends := by
      obtain ⟨more, hmore⟩ := completes horder l ⟨fun resource => .error (.status resource 404), id⟩
      refine ⟨more, ?_⟩
      rw [Calls.play_append]
      exact hmore }

/-- A load that is overtaken while its request is under way, and the load that overtakes it. -/
def overtakenCats : Loads :=
  (start .empty [.letter 'c', .other]).play (.loads (.ofExtension "js")) ((overtaking 2).map fun i => (.cats, i))

/-- The answer of the first load is dropped; the second one has the greatest ticket and comes to what the
index gives it. -/
theorem protocol_overtakenCats : [Bucket.letter 'c', .other].length < UInt64.size ∧
    overtakenCats.calls[0]? = some (.letter 'c', .finished (.error (.superseded "c.js"))) ∧
    overtakenCats.calls[1]? = some (.other, .finished (.ok 1)) ∧ overtakenCats.takers.getLast? = some 1 ∧
    ∃ shard, (Loader.ofExtension "js").load .cats .other = .ok shard := by
  have hadded : overtakenCats.calls[1]? = some (.other, .finished (.ok 1)) := by cbv
  have hlast : overtakenCats.takers.getLast? = some 1 := by cbv
  refine ⟨by decide, by cbv, hadded, hlast, ?_⟩
  have hprotocol := protocol (.ofExtension "js") .empty [.letter 'c', .other]
    ((overtaking 2).map fun i => (.cats, i)) (by decide)
  obtain ⟨shard, -, -, -, hdecided, -⟩ := hprotocol.stored hadded
  obtain ⟨-, before, source, after, -, hturns, -, hload⟩ := hprotocol.newest hlast hdecided
  have hsource : source = .cats := by
    have hmem : (source, 1) ∈ (overtaking 2).map fun i => (Source.cats, i) := by simp [hturns]
    obtain ⟨_, -, heq⟩ := List.mem_map.mp hmem
    cases heq
    rfl
  exact ⟨shard, by rw [← hsource, hload]⟩

end ShardSearch.Loads
