/-
Loads that overlap on one loader, on an index that may answer differently at every request.

A run is a list of turns: the call that moves, and the index as it answers at that moment. A call
that is only to load makes no step once it has its shard, so runs of both kinds of calls are among
these. Tickets number the calls in the order in which they took them, and requests begin by
increasing tickets (`begun_increasing`): a request begins with the newest ticket there is, and the
call that has this ticket makes only one.
-/
import ShardSearch.Proofs.SlotOrder

namespace ShardSearch

/-- How many steps a load is from its end, at most. -/
def Phase.distance : Phase → Nat
  | .ready => 7
  | .queued _ => 6
  | .holding _ => 5
  | .asking _ => 4
  | .answered _ _ => 3
  | .decided _ => 2
  | .loaded _ => 1
  | .finished _ => 0

theorem Phase.Moves.distance_lt {l : Loader} {source : Source} {i : Nat} {b : Bucket} {s s' : Shared}
    {p p' : Phase} (h : Moves l source i b s p s' p') : p'.distance < p.distance := by
  cases h <;> simp [Phase.distance]

theorem Machine.loads_follows (l : Loader) : (Machine.loads l).Follows l id :=
  fun {_ _ b _ _ _ _} hstep => .inl ⟨b, Phase.step?_eq_some_iff.mp hstep⟩

namespace Loads

section

variable {l : Loader} {source : Source} {s : Loads} {i : Nat} {b : Bucket} {p : Phase}

/-- What a turn of call `i` does: a step of the load, or nothing. -/
theorem turn_moves (l : Loader) (source : Source) (s : Loads) (i : Nat) :
    s.turn (.loads l) source i = s ∨ ∃ b p s' p', s.calls[i]? = some (b, p) ∧
      Phase.Moves l source i b s.toShared p s' p' ∧
      s.turn (.loads l) source i = ⟨s', s.calls.set i (b, p')⟩ := by
  refine (s.turn_cases (.loads l) source i).imp_right ?_
  rintro ⟨b, p, s', p', hc, hstep, heq⟩
  exact ⟨b, p, s', p', hc, Phase.step?_eq_some_iff.mp hstep, heq⟩

theorem turn_of_moves {s' : Shared} {p' : Phase} (hc : s.calls[i]? = some (b, p))
    (hm : Phase.Moves l source i b s.toShared p s' p') :
    s.turn (.loads l) source i = ⟨s', s.calls.set i (b, p')⟩ :=
  Calls.turn_of_call hc (Phase.step?_eq_some_iff.mpr hm)

end

/-! ## Order -/

/-- Loads in order, on a counter that started at zero. -/
structure Orderly (s : Loads) : Prop where
  shared : s.toShared.Orderly (s.phases id)
  counted : s.issued = UInt64.ofNat s.takers.length

theorem start_orderly (store : Store) (buckets : List Bucket) : Orderly (start store buckets) where
  shared := Calls.start_orderly rfl store 0 buckets
  counted := rfl

theorem turn_orderly {s : Loads} (h : s.Orderly) (l : Loader) (source : Source) (i : Nat) :
    Orderly (s.turn (.loads l) source i) := by
  refine ⟨Calls.turn_orderly (Machine.loads_follows l) h.shared source i, ?_⟩
  rcases turn_moves l source s i with heq | ⟨b, p, s', p', -, hm, heq⟩
  · rw [heq, h.counted]
  · rw [heq]
    rcases hm.grows.tickets with ⟨ht, hi⟩ | ⟨ht, hi⟩
    · simp only [ht, hi, h.counted]
    · simp only [ht, hi, h.counted, List.length_append, List.length_singleton, UInt64.ofNat_add]
      rfl

theorem play_orderly {s : Loads} (h : s.Orderly) (l : Loader) (turns : List (Source × Nat)) :
    Orderly (s.play (.loads l) turns) :=
  Calls.play_invariant (P := Orderly) (fun _ source i h => turn_orderly h l source i) h turns

section

variable {l : Loader} {s : Loads} {i : Nat} {b : Bucket} {p : Phase} {t : UInt64}

theorem Orderly.toNat_issued (h : s.Orderly) (hfew : s.calls.length < UInt64.size) :
    s.issued.toNat = s.takers.length := by
  rw [h.counted, UInt64.toNat_ofNat_of_lt' (Calls.few_takers h.shared hfew)]

/-- Tickets number the calls in the order in which these took them. -/
theorem Orderly.toNat_ticket (h : s.Orderly) (hfew : s.calls.length < UInt64.size)
    (hc : s.calls[i]? = some (b, p)) (ht : p.ticket? = some t) :
    0 < t.toNat ∧ t.toNat ≤ s.takers.length ∧ s.takers[t.toNat - 1]? = some i := by
  obtain ⟨before, after, htakers, hissued⟩ := (h.shared.placed (Calls.phases_of_call id hc)).ticket ht
  have hlen : s.takers.length = before.length + 1 + after.length := by
    rw [htakers, List.length_append, List.length_cons]
    omega
  have hfew' := Calls.few_takers h.shared hfew
  have hticket : t = UInt64.ofNat (before.length + 1) := by
    rw [h.counted, hlen, UInt64.ofNat_add] at hissued
    exact (UInt64.add_left_inj _).mp hissued.symm
  have htoNat : t.toNat = before.length + 1 := by
    rw [hticket, UInt64.toNat_ofNat_of_lt' (by omega)]
  refine ⟨by omega, by omega, ?_⟩
  rw [htoNat, htakers]
  simp

/-- The newest ticket is that of the last taker. -/
theorem Orderly.newest_iff (h : s.Orderly) (hfew : s.calls.length < UInt64.size)
    (hc : s.calls[i]? = some (b, p)) (ht : p.ticket? = some t) :
    s.issued = t ↔ s.takers.getLast? = some i := by
  have hticket := (h.shared.placed (Calls.phases_of_call id hc)).ticket ht
  exact hticket.newest_iff h.shared.nodup (Calls.few_takers h.shared hfew)

end

/-! ## Requests in the order of time -/

/-- The request that a turn of call `i` begins: its ticket and its resource. -/
def begins? (l : Loader) (s : Loads) (i : Nat) : Option (UInt64 × String) :=
  match s.calls[i]? with
  | some (b, .holding ticket) => if s.issued = ticket then some (ticket, l.resource b) else none
  | _ => none

/-- The requests that turns begin, one after another. -/
def begun (l : Loader) : Loads → List (Source × Nat) → List (UInt64 × String)
  | _, [] => []
  | s, (source, i) :: turns => (s.begins? l i).toList ++ begun l (s.turn (.loads l) source i) turns

section

variable {l : Loader} {source : Source} {s : Loads} {i : Nat}

theorem begins?_eq_some_iff {t : UInt64} {resource : String} : s.begins? l i = some (t, resource) ↔
    ∃ b, s.calls[i]? = some (b, .holding t) ∧ s.issued = t ∧ resource = l.resource b := by
  simp only [begins?]
  constructor
  · intro h
    split at h
    next b ticket hc =>
      split at h
      next hnew =>
        cases h
        exact ⟨b, hc, hnew, rfl⟩
      next => cases h
    next => cases h
  · rintro ⟨b, hc, rfl, rfl⟩
    simp [hc]

theorem requests_turn (l : Loader) (source : Source) (s : Loads) (i : Nat) :
    (s.turn (.loads l) source i).requests = s.requests ++ (s.begins? l i).toList.map Prod.snd := by
  cases hb : s.begins? l i with
  | some request =>
    obtain ⟨b, hc, hnew, hr⟩ := begins?_eq_some_iff.mp hb
    rw [turn_of_moves hc (.ask hnew)]
    simp [hr]
  | none =>
    rcases turn_moves l source s i with heq | ⟨b, p, s', p', hc, hm, heq⟩
    · simp [heq]
    · rw [heq]
      cases hm with
      | ask hnew =>
        rw [begins?_eq_some_iff.mpr ⟨b, hc, hnew, rfl⟩] at hb
        cases hb
      | take | enter | yield | answer | refuse | settle | drop | fail | release | store => simp

theorem requests_play (l : Loader) (s : Loads) (turns : List (Source × Nat)) :
    (s.play (.loads l) turns).requests = s.requests ++ (begun l s turns).map Prod.snd := by
  induction turns generalizing s with
  | nil => simp [Calls.play, begun]
  | cons turn turns ih =>
    rw [Calls.play_cons, ih, requests_turn, begun, List.map_append, List.append_assoc]

/-- The last call that took a ticket has made its request. -/
def Spent (s : Loads) : Prop :=
  ∃ i b p, s.takers.getLast? = some i ∧ s.calls[i]? = some (b, p) ∧ p.distance < 5

theorem issued_turn (h : s.Orderly) (hfew : s.calls.length < UInt64.size) (l : Loader) (source : Source)
    (i : Nat) : s.issued.toNat < (s.turn (.loads l) source i).issued.toNat ∨
      (s.turn (.loads l) source i).issued = s.issued ∧ (s.Spent → Spent (s.turn (.loads l) source i)) := by
  rcases turn_moves l source s i with heq | ⟨b, p, s', p', hc, hm, heq⟩
  · rw [heq]
    exact .inr ⟨rfl, id⟩
  have hcount := h.toNat_issued hfew
  have hcount' := (turn_orderly h l source i).toNat_issued (by rwa [Calls.length_calls_turn])
  rw [heq] at hcount' ⊢
  simp only at hcount'
  rcases hm.grows.tickets with ⟨ht, hi⟩ | ⟨ht, -⟩
  · refine .inr ⟨hi, ?_⟩
    rintro ⟨j, b', q, hlast, hj, hq⟩
    by_cases hij : j = i
    · subst hij
      rw [hc] at hj
      cases hj
      have hdown := hm.distance_lt
      exact ⟨j, b, p', by rw [ht, hlast], Calls.getElem?_set_self hc p', by omega⟩
    · exact ⟨j, b', q, by rw [ht, hlast], by rw [List.getElem?_set_ne (Ne.symm hij), hj], hq⟩
  · refine .inl ?_
    rw [hcount, hcount', ht, List.length_append, List.length_singleton]
    omega

/-- A request that begins from here on has the newest ticket or a newer one. -/
theorem le_of_begun (h : s.Orderly) (hfew : s.calls.length < UInt64.size) (turns : List (Source × Nat)) :
    ∀ request ∈ begun l s turns, s.issued.toNat ≤ request.1.toNat ∧
      (s.Spent → s.issued.toNat < request.1.toNat) := by
  induction turns generalizing s with
  | nil => simp [begun]
  | cons turn turns ih =>
    obtain ⟨source, i⟩ := turn
    rintro ⟨t, resource⟩ hmem
    rw [begun, List.mem_append, Option.mem_toList] at hmem
    rcases hmem with hnow | hlater
    · obtain ⟨b, hc, hnew, -⟩ := begins?_eq_some_iff.mp hnow
      refine ⟨by rw [hnew], ?_⟩
      rintro ⟨j, b', q, hlast, hj, hq⟩
      have hlast' := (h.newest_iff hfew hc rfl).mp hnew
      rw [hlast'] at hlast
      cases hlast
      rw [hc] at hj
      cases hj
      simp [Phase.distance] at hq
    · obtain ⟨hle, hlt⟩ := ih (turn_orderly h l source i) (by rwa [Calls.length_calls_turn]) _ hlater
      rcases issued_turn h hfew l source i with hup | ⟨heq, hspent⟩
      · exact ⟨by omega, fun _ => by omega⟩
      · rw [heq] at hle hlt
        exact ⟨hle, fun hs => hlt (hspent hs)⟩

theorem spent_of_begins (h : s.Orderly) (hfew : s.calls.length < UInt64.size) {t : UInt64} {resource : String}
    (hb : s.begins? l i = some (t, resource)) (source : Source) :
    Spent (s.turn (.loads l) source i) ∧ (s.turn (.loads l) source i).issued = t := by
  obtain ⟨b, hc, hnew, -⟩ := begins?_eq_some_iff.mp hb
  have hlast := (h.newest_iff hfew hc rfl).mp hnew
  rw [turn_of_moves hc (.ask hnew)]
  exact ⟨⟨i, b, .asking t, hlast, Calls.getElem?_set_self hc _, by simp [Phase.distance]⟩, hnew⟩

/-- **Requests begin by increasing tickets.** -/
theorem begun_increasing (h : s.Orderly) (hfew : s.calls.length < UInt64.size) (turns : List (Source × Nat)) :
    ((begun l s turns).map Prod.fst).Pairwise (· < ·) := by
  induction turns generalizing s with
  | nil => simp [begun]
  | cons turn turns ih =>
    obtain ⟨source, i⟩ := turn
    have hnext := turn_orderly h l source i
    have hfew' : (s.turn (.loads l) source i).calls.length < UInt64.size := by rwa [Calls.length_calls_turn]
    rw [begun, List.map_append, List.pairwise_append]
    refine ⟨?_, ih hnext hfew', ?_⟩
    · cases s.begins? l i <;> simp
    · intro t ht t' ht'
      obtain ⟨⟨_, resource⟩, hmem, rfl⟩ := List.mem_map.mp ht
      obtain ⟨request, hlater, rfl⟩ := List.mem_map.mp ht'
      obtain ⟨hspent, hissued⟩ := spent_of_begins h hfew (Option.mem_toList.mp hmem) source
      have hlt := (le_of_begun hnext hfew' turns request hlater).2 hspent
      rw [hissued] at hlt
      exact UInt64.lt_iff_toNat_lt.mpr hlt

end

end Loads

end ShardSearch
