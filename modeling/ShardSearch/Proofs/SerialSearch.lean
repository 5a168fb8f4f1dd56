/-
Searches made one after another, step by step.

In the machine of overlapping searches a search that runs alone does exactly what the session does in
one go (`solo_search`): nobody takes a ticket behind its back, so its own stays the newest and it is
never superseded, whatever the counter has come to. A serial schedule is then a session
(`serial_calls`), and its answers are those of the index.
-/
import ShardSearch.Engine.Overlap
import ShardSearch.Proofs.CallRuns
import ShardSearch.Proofs.SearchSession

namespace ShardSearch

open Engine

section

variable (l : Loader) (least : Nat) (source : Source) (i : Nat) (term : String)

/-- A turn of a search as it changes the shared state and its own stage. -/
def Stage.advance (x : Shared × Stage) : Shared × Stage :=
  (x.2.step? l least source i term x.1).getD x

/-- A number of turns in a row. -/
def Stage.solo : Nat → Shared × Stage → Shared × Stage
  | 0, x => x
  | n + 1, x => solo n (Stage.advance l least source i term x)

end

namespace Stage

variable {l : Loader} {least : Nat} {source : Source} {i : Nat} {term : String} {first : Char}
  {rest : List Char}

theorem solo_add (m n : Nat) (x : Shared × Stage) :
    solo l least source i term (m + n) x = solo l least source i term n (solo l least source i term m x) := by
  induction m generalizing x with
  | zero => rw [Nat.zero_add, solo]
  | succ m ih => rw [Nat.add_right_comm, solo, solo, ih]

theorem solo_done (n : Nat) (s : Shared) (result : Except SearchError Matches) :
    solo l least source i term n (s, .done result) = (s, .done result) := by
  induction n with
  | zero => rfl
  | succ n ih => exact ih

theorem advance_called (hq : Asks least term first rest) (s : Shared) :
    advance l least source i term (s, .called) = (s, .looking first rest) := by
  have hle : least ≤ (first :: rest).length := hq.enough
  simp only [advance, step?, hq.lower, if_pos hle, Option.getD_some]

theorem advance_tooShort (hnot : ∀ first rest, ¬ Asks least term first rest) (s : Shared) :
    advance l least source i term (s, .called) = (s, .done (.error (.tooShort (Text.lowercase term) least))) := by
  simp only [advance, step?, Text.lowercase]
  cases hq : Text.lower term.toList with
  | nil => rfl
  | cons first rest =>
    have hshort : ¬ least ≤ (first :: rest).length := fun he => hnot first rest ⟨hq, he⟩
    simp only [if_neg hshort, Option.getD_some]

/-- A search that finds its tree or its bucket in the store. -/
theorem solo_present (hq : Asks least term first rest) (s : Shared)
    (hin : s.store.contains first = true ∨ s.store.isFetched (.ofChar first) = true) :
    solo l least source i term 4 (s, .called) = (s, .done (lookIn s.store first rest)) := by
  rw [solo, advance_called hq]
  by_cases hc : s.store.contains first = true
  · simp [solo, advance, step?, hc]
  · have hf := hin.resolve_left hc
    simp [solo, advance, step?, hc, hf]

/-- A search that finds neither. -/
theorem solo_missed (hq : Asks least term first rest) (s : Shared) (hnone : s.store.get? first = none)
    (hf : s.store.isFetched (.ofChar first) = false) :
    solo l least source i term 3 (s, .called) = (s, .loading first rest .ready) := by
  rw [solo, advance_called hq]
  simp [solo, advance, step?, Store.contains_eq_isSome, hnone, hf]

/-- From its first step to the end of its request, a load that runs alone comes to what the index
answers. -/
theorem solo_load (s : Shared) (hfree : s.holder = none) :
    solo l least source i term 5 (s, .loading first rest .ready) =
      (⟨s.issued + 1, some i, s.store, s.requests ++ [l.resource (.ofChar first)], s.takers ++ [i]⟩,
        .loading first rest (.decided (l.load source (.ofChar first)))) := by
  cases hf : source.fetch (l.resource (.ofChar first)) with
  | error e => simp [solo, advance, step?, Phase.step?, hfree, hf, Loader.load, Loader.settle]
  | ok body => simp [solo, advance, step?, Phase.step?, hfree, hf, Loader.load]

theorem solo_decided_error (s : Shared) (cause : LoadError) :
    solo l least source i term 4 (s, .loading first rest (.decided (.error cause))) =
      ({ s with holder := none }, .done (.error (.unavailable (Bucket.ofChar first).name cause))) := by
  simp [solo, advance, step?, Phase.step?]

theorem solo_decided_ok (s : Shared) (shard : Shard) :
    solo l least source i term 4 (s, .loading first rest (.decided (.ok shard))) =
      ({ s with
          holder := none
          store := (s.store.insertBucket (.ofChar first) (shard.trees (.ofChar first))).1 },
        .done (lookIn (s.store.insertBucket (.ofChar first) (shard.trees (.ofChar first))).1 first rest)) := by
  simp [solo, advance, step?, Phase.step?]

/-- **A search that runs alone does what a session does in one go**, whatever tickets were issued
before: it gives the same result, leaves the same store and makes the same requests, and it gives
the slot back. -/
theorem solo_search (e : Engine) (source : Source) (i : Nat) (term : String) (s : Shared)
    (hstore : s.store = e.store) (hfree : s.holder = none) :
    ∃ s', solo e.loader e.leastLength source i term Searches.stepsPerSearch (s, .called) =
        (s', .done (e.trySearch source term).result) ∧
      s'.store = (e.trySearch source term).store ∧ s'.holder = none ∧
      s'.requests = s.requests ++ (e.trySearch source term).requests := by
  have htook := trySearch_took e source term
  generalize e.trySearch source term = t at htook ⊢
  cases htook with
  | tooShort hnot =>
    refine ⟨s, ?_, hstore, hfree, by simp⟩
    rw [Searches.stepsPerSearch, solo, advance_tooShort hnot, solo_done]
  | present hq hin =>
    rw [← hstore] at hin ⊢
    refine ⟨s, ?_, rfl, hfree, by simp⟩
    rw [Searches.stepsPerSearch, solo_add 4 8, solo_present hq s hin, solo_done]
  | @failed first _ _ _ hq hnone hf hl =>
    rw [← hstore] at hnone hf ⊢
    refine ⟨⟨s.issued + 1, none, s.store, s.requests ++ [e.loader.resource (.ofChar first)],
      s.takers ++ [i]⟩, ?_, rfl, rfl, rfl⟩
    rw [Searches.stepsPerSearch, solo_add 3 9, solo_missed hq s hnone hf, solo_add 5 4, solo_load s hfree, hl,
      solo_decided_error]
  | @loaded first _ _ store _ hq hnone hf hl hnew =>
    rw [← hstore] at hnone hf hnew
    subst hnew
    refine ⟨⟨s.issued + 1, none, _, s.requests ++ [e.loader.resource (.ofChar first)],
      s.takers ++ [i]⟩, ?_, rfl, rfl, rfl⟩
    rw [Searches.stepsPerSearch, solo_add 3 9, solo_missed hq s hnone hf, solo_add 5 4, solo_load s hfree, hl,
      solo_decided_ok]

end Stage

namespace Searches

variable {l : Loader} {least : Nat} {source : Source}

/-- The state with a call, and what all calls share, replaced. -/
def put (s : Searches) (i : Nat) (term : String) (x : Shared × Stage) : Searches :=
  ⟨x.1, s.calls.set i (term, x.2)⟩

theorem put_self {s : Searches} {i : Nat} {term : String} {stage : Stage}
    (hi : s.calls[i]? = some (term, stage)) : s.put i term (s.toShared, stage) = s := by
  obtain ⟨hlt, heq⟩ := List.getElem?_eq_some_iff.mp hi
  rw [put, ← heq, List.set_getElem_self]

theorem turn_eq {s : Searches} {i : Nat} {term : String} {stage : Stage}
    (hi : s.calls[i]? = some (term, stage)) :
    s.turn (.searches l least) source i =
      s.put i term (Stage.advance l least source i term (s.toShared, stage)) := by
  simp only [Calls.turn, Calls.step?, Machine.searches, hi, Stage.advance]
  cases stage.step? l least source i term s.toShared with
  | none => exact (put_self hi).symm
  | some x => rfl

theorem run_replicate {s : Searches} {i : Nat} {term : String} {stage : Stage}
    (hi : s.calls[i]? = some (term, stage)) (n : Nat) :
    s.run (.searches l least) source (List.replicate n i) =
      s.put i term (Stage.solo l least source i term n (s.toShared, stage)) := by
  induction n generalizing s stage with
  | zero => exact (put_self hi).symm
  | succ n ih =>
    have hlt := (List.getElem?_eq_some_iff.mp hi).1
    have hnext : (s.put i term (Stage.advance l least source i term (s.toShared, stage))).calls[i]? =
        some (term, (Stage.advance l least source i term (s.toShared, stage)).2) :=
      List.getElem?_set_self hlt
    rw [List.replicate_succ, Calls.run_cons, turn_eq hi, ih hnext, Stage.solo]
    simp only [put, List.set_set]

theorem serial_succ (count : Nat) :
    serial (count + 1) = serial count ++ List.replicate stepsPerSearch count := by
  simp [serial, List.range_succ]

/-- After the first `count` searches of a serial run: the slot is free, the store is that of a session,
each of these searches has the session's answer, and the others have not moved. -/
structure Serial (l : Loader) (least : Nat) (source : Source) (terms : List String) (count : Nat)
    (s : Searches) : Prop where
  free : s.holder = none
  store : s.store = (session l least none source (terms.take count)).store
  before : ∀ k term, k < count → terms[k]? = some term → s.calls[k]? = some (term,
    .done ((session l least none source (terms.take k)).trySearch source term).result)
  after : ∀ k term, count ≤ k → terms[k]? = some term → s.calls[k]? = some (term, .called)

theorem session_take_succ {terms : List String} {k : Nat} {term : String} (hk : terms[k]? = some term) :
    session l least none source (terms.take (k + 1)) =
      (session l least none source (terms.take k)).searched source term := by
  have htake : terms.take (k + 1) = terms.take k ++ [term] := by rw [List.take_add_one, hk, Option.toList_some]
  simp [session, htake, searchedAll]

theorem run_serial (issued : UInt64) (terms : List String) {count : Nat} (hcount : count ≤ terms.length) :
    Serial l least source terms count
      ((start .empty issued terms).run (.searches l least) source (serial count)) := by
  induction count with
  | zero =>
    refine ⟨rfl, rfl, fun k term hk => absurd hk (Nat.not_lt_zero k), fun k term _ hk => ?_⟩
    simp [serial, Calls.run, Calls.play, start, hk]
  | succ count ih =>
    obtain ⟨hfree, hstore, hbefore, hafter⟩ := ih (by omega)
    rw [serial_succ, Calls.run_append]
    generalize (start .empty issued terms).run (.searches l least) source (serial count) = s
      at hfree hstore hbefore hafter ⊢
    -- The next search starts from what the earlier ones left behind, and runs alone.
    obtain ⟨term, hterm⟩ : ∃ term, terms[count]? = some term := ⟨_, List.getElem?_eq_getElem hcount⟩
    have hcall := hafter count term (Nat.le_refl count) hterm
    have hlt := (List.getElem?_eq_some_iff.mp hcall).1
    obtain ⟨s', hsolo, hstore', hfree', -⟩ := Stage.solo_search (session l least none source (terms.take count))
      source count term s.toShared hstore hfree
    rw [session_loader, session_leastLength] at hsolo
    rw [run_replicate hcall, hsolo]
    refine ⟨hfree', ?_, fun k term' hk hk' => ?_, fun k term' hk hk' => ?_⟩
    · rw [session_take_succ hterm]
      exact hstore'
    · by_cases heq : k = count
      · subst heq
        rw [hterm, Option.some.injEq] at hk'
        subst hk'
        exact List.getElem?_set_self hlt
      · rw [put, List.getElem?_set_ne (Ne.symm heq)]
        exact hbefore k term' (by omega) hk'
    · rw [put, List.getElem?_set_ne (by omega)]
      exact hafter k term' (by omega) hk'

/-- In a serial run each search gets the answer of a session that made the earlier ones. -/
theorem serial_calls (l : Loader) (least : Nat) (source : Source) (issued : UInt64) {terms : List String}
    {k : Nat} {term : String} (hk : terms[k]? = some term) :
    ((start .empty issued terms).run (.searches l least) source (serial terms.length)).calls[k]? = some (term,
      .done ((session l least none source (terms.take k)).trySearch source term).result) :=
  (run_serial issued terms (Nat.le_refl _)).before k term (List.getElem?_eq_some_iff.mp hk).1 hk

/-- **The cache is invisible.** After any searches made one after another, a search gives the answer of
one that remembers nothing, shadowed letters apart: in a session, and step by step in a serial run
with tickets and slot. This answer is never that a load was superseded. -/
theorem cache_invisible (l : Loader) (least : Nat) (entries : Option EntryList) (source : Source)
    (issued : UInt64) (terms : List String) (term : String)
    (hs : ∀ c ∈ (Text.lower term.toList).head?, ¬ l.Shadows source c) :
    ((session l least entries source terms).trySearch source term).result = direct l least source term ∧
      ((start .empty issued (terms ++ [term])).run (.searches l least) source
          (serial (terms.length + 1))).calls[terms.length]? =
        some (term, .done (direct l least source term)) ∧
      ∀ name resource, direct l least source term ≠ .error (.unavailable name (.superseded resource)) := by
  have hsession : ∀ entries, ((session l least entries source terms).trySearch source term).result =
      direct l least source term := fun entries => session_trySearch l least entries source terms hs
  have hlast : (terms ++ [term])[terms.length]? = some term := List.getElem?_concat_length
  have hserial := serial_calls l least source issued hlast
  rw [List.length_append, List.length_singleton, List.take_left, hsession] at hserial
  exact ⟨hsession entries, hserial, direct_ne_superseded l least source term⟩

theorem cache_invisible_cat : (∀ c ∈ (Text.lower "CAT".toList).head?, ¬ (Loader.ofExtension "js").Shadows .cats c) ∧
    ((session (.ofExtension "js") 2 none .cats ["2013", "zebra", "-vm"]).trySearch .cats "CAT").result =
      .ok ⟨[⟨"docA"⟩], [⟨"docB"⟩]⟩ := by
  have hs : ∀ c ∈ (Text.lower "CAT".toList).head?, ¬ (Loader.ofExtension "js").Shadows .cats c :=
    fun c _ => Loader.not_shadows_cats c
  have hdirect : direct (.ofExtension "js") 2 .cats "CAT" = .ok ⟨[⟨"docA"⟩], [⟨"docB"⟩]⟩ := by cbv
  exact ⟨hs, (cache_invisible (.ofExtension "js") 2 none .cats 0 ["2013", "zebra", "-vm"] "CAT" hs).1.trans hdirect⟩

end Searches

end ShardSearch
