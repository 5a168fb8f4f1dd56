/-
The requests of a session over whole runs, on an index that may answer differently every time.

What a search may do is known (`Took`), so the requests of a run come down to one mark: a bucket is
remembered once a search has requested it and could store what came back, and by nothing else. A
success sets the mark, even if the shard has no tree for the character that was asked for, and no
search requests a bucket that is marked; a failure of any kind leaves the session as it was.
-/
import ShardSearch.Proofs.SearchSession

namespace ShardSearch.Engine

/-- A search of a term needs a shard: the term is long enough, and the session has neither a tree for the
leading character nor the mark of its bucket. -/
structure Needs (e : Engine) (term : String) (first : Char) (rest : List Char) : Prop where
  asks : Asks e.leastLength term first rest
  absent : e.store.get? first = none
  unmarked : e.store.isFetched (.ofChar first) = false

/-- The requests of searches made one after another, each on the index as it answers then. -/
def requestsIn (e : Engine) : List (Source × String) → List String
  | [] => []
  | (source, term) :: turns => (e.trySearch source term).requests ++ (e.searched source term).requestsIn turns

/-! ## One search -/

section

variable {e : Engine} {source : Source} {term : String}

theorem Needs.not_present {first d : Char} {rest r : List Char} (h : e.Needs term first rest)
    (hq : Asks e.leastLength term d r) :
    ¬ (e.store.contains d = true ∨ e.store.isFetched (.ofChar d) = true) := by
  obtain ⟨rfl, -⟩ : first = d ∧ rest = r := by simpa using h.asks.lower.symm.trans hq.lower
  simp [Store.contains_eq_isSome, h.absent, h.unmarked]

theorem requests_of_needs {first : Char} {rest : List Char} (h : e.Needs term first rest) :
    (e.trySearch source term).requests = [e.loader.resource (.ofChar first)] := by
  have htook := trySearch_took e source term
  generalize e.trySearch source term = t at htook ⊢
  cases htook with
  | tooShort hnot => exact absurd h.asks (hnot _ _)
  | present hq hin => exact absurd hin (h.not_present hq)
  | failed hq | loaded hq =>
    obtain ⟨rfl, -⟩ := List.cons.inj (h.asks.lower.symm.trans hq.lower)
    rfl

theorem requests_cases (e : Engine) (source : Source) (term : String) :
    (e.trySearch source term).requests = [] ∨ ∃ first rest, e.Needs term first rest ∧
      (e.trySearch source term).requests = [e.loader.resource (.ofChar first)] := by
  have htook := trySearch_took e source term
  generalize e.trySearch source term = t at htook ⊢
  cases htook with
  | tooShort => exact .inl rfl
  | present => exact .inl rfl
  | failed hq hnone hf => exact .inr ⟨_, _, ⟨hq, hnone, hf⟩, rfl⟩
  | loaded hq hnone hf => exact .inr ⟨_, _, ⟨hq, hnone, hf⟩, rfl⟩

theorem needs_of_mem_requests {c : Char}
    (h : e.loader.resource (.ofChar c) ∈ (e.trySearch source term).requests) :
    ∃ first rest, e.Needs term first rest ∧ Bucket.ofChar first = .ofChar c := by
  rcases requests_cases e source term with hr | ⟨first, rest, hneeds, hr⟩
  · simp [hr] at h
  · rw [hr, List.mem_singleton] at h
    exact ⟨first, rest, hneeds, (Loader.resource_ofChar_inj h).symm⟩

theorem store_of_loaded {first : Char} {rest : List Char} {shard : Shard} (h : e.Needs term first rest)
    (hl : e.loader.load source (.ofChar first) = .ok shard) :
    (e.searched source term).store = (e.store.insertBucket (.ofChar first) (shard.trees (.ofChar first))).1 := by
  have htook := trySearch_took e source term
  rw [searched]
  generalize e.trySearch source term = t at htook ⊢
  cases htook with
  | tooShort hnot => exact absurd h.asks (hnot _ _)
  | present hq hin => exact absurd hin (h.not_present hq)
  | failed hq _ _ hfail =>
    obtain ⟨rfl, -⟩ := List.cons.inj (h.asks.lower.symm.trans hq.lower)
    cases hl.symm.trans hfail
  | loaded hq _ _ hload hstore =>
    obtain ⟨rfl, -⟩ := List.cons.inj (h.asks.lower.symm.trans hq.lower)
    cases hl.symm.trans hload
    exact hstore

theorem store_of_failed {first : Char} {rest : List Char} {cause : LoadError} (h : e.Needs term first rest)
    (hl : e.loader.load source (.ofChar first) = .error cause) : (e.searched source term).store = e.store := by
  have htook := trySearch_took e source term
  rw [searched]
  generalize e.trySearch source term = t at htook ⊢
  cases htook with
  | tooShort => rfl
  | present => rfl
  | failed => rfl
  | loaded hq _ _ hload =>
    obtain ⟨rfl, -⟩ := List.cons.inj (h.asks.lower.symm.trans hq.lower)
    cases hl.symm.trans hload

/-- A search sets the mark of its bucket, and only if it requested the bucket. -/
theorem isFetched_searched_iff {c : Char} : (e.searched source term).store.isFetched (.ofChar c) = true ↔
    e.store.isFetched (.ofChar c) = true ∨
      e.loader.resource (.ofChar c) ∈ (e.trySearch source term).requests ∧
        ∃ shard, e.loader.load source (.ofChar c) = .ok shard := by
  rcases requests_cases e source term with hr | ⟨first, rest, hneeds, hr⟩
  · have hsame : (e.searched source term).store = e.store := by
      have htook := trySearch_took e source term
      rw [searched]
      generalize e.trySearch source term = t at htook hr ⊢
      cases htook with
      | tooShort | present | failed => rfl
      | loaded => cases hr
    simp [hsame, hr]
  · rw [hr, List.mem_singleton]
    cases hl : e.loader.load source (.ofChar first) with
    | error cause =>
      rw [store_of_failed hneeds hl]
      refine ⟨.inl, ?_⟩
      rintro (h | ⟨hsame, shard, hok⟩)
      · exact h
      · rw [Loader.resource_ofChar_inj hsame, hl] at hok
        cases hok
    | ok shard =>
      rw [store_of_loaded hneeds hl, Store.isFetched_insertBucket]
      refine or_congr_right ⟨fun hb => ?_, fun h => Loader.resource_ofChar_inj h.1⟩
      rw [hb]
      exact ⟨rfl, shard, hl⟩

end

/-! ## Runs -/

theorem not_mem_requestsIn {e : Engine} {c : Char} (h : e.store.isFetched (.ofChar c) = true)
    (turns : List (Source × String)) : e.loader.resource (.ofChar c) ∉ e.requestsIn turns := by
  induction turns generalizing e with
  | nil => exact List.not_mem_nil
  | cons turn turns ih =>
    obtain ⟨source, term⟩ := turn
    rw [requestsIn, List.mem_append, not_or]
    refine ⟨fun hmem => ?_, ih (isFetched_searched_iff.mpr (.inl h))⟩
    obtain ⟨first, rest, hneeds, hb⟩ := needs_of_mem_requests hmem
    have hunmarked := hneeds.unmarked
    rw [hb, h] at hunmarked
    cases hunmarked

theorem unmarked_searchedAll {e : Engine} {c : Char} (h : e.store.isFetched (.ofChar c) = false)
    {turns : List (Source × String)} (hnot : e.loader.resource (.ofChar c) ∉ e.requestsIn turns) :
    (e.searchedAll turns).store.isFetched (.ofChar c) = false := by
  induction turns generalizing e with
  | nil => exact h
  | cons turn turns ih =>
    obtain ⟨source, term⟩ := turn
    rw [requestsIn, List.mem_append, not_or] at hnot
    refine ih ?_ hnot.2
    rw [← Bool.not_eq_true]
    intro hmarked
    rcases isFetched_searched_iff.mp hmarked with hf | ⟨hmem, -⟩
    · rw [h] at hf
      cases hf
    · exact hnot.1 hmem

/-- What holds of a search of a session, of those before it and of those after it. -/
structure Discipline (e : Engine) (source : Source) (term : String) : Prop where
  /-- It makes no request or exactly one, for the bucket of its leading character. -/
  atMostOne : (e.trySearch source term).requests = [] ∨ ∃ first rest, Text.lower term.toList = first :: rest ∧
    (e.trySearch source term).requests = [e.loader.resource (.ofChar first)]
  /-- It makes one exactly if it needs a shard. -/
  needed : (e.trySearch source term).requests ≠ [] ↔ ∃ first rest, e.Needs term first rest
  /-- If the answer could be decoded, the resource is not requested in the rest of the run. -/
  once : ∀ first shard, (e.trySearch source term).requests = [e.loader.resource (.ofChar first)] →
    e.loader.load source (.ofChar first) = .ok shard →
    ∀ later, e.loader.resource (.ofChar first) ∉ (e.searched source term).requestsIn later
  /-- If not, nothing has changed, and the next search that is long enough and finds no tree for a character
  of the bucket requests it again. -/
  again : ∀ first cause, (e.trySearch source term).requests = [e.loader.resource (.ofChar first)] →
    e.loader.load source (.ofChar first) = .error cause → (e.searched source term).store = e.store ∧
      ∀ between, e.loader.resource (.ofChar first) ∉ (e.searched source term).requestsIn between →
      ∀ source' term' first' rest', Bucket.ofChar first' = .ofChar first → Asks e.leastLength term' first' rest' →
        ((e.searched source term).searchedAll between).store.get? first' = none →
        (((e.searched source term).searchedAll between).trySearch source' term').requests =
          [e.loader.resource (.ofChar first)]

/-- **The requests of a session.** After any searches made one after another, whatever the index answered each
time, the next search makes no request or one for its bucket; it makes one exactly if its term is long enough
and the session has neither a tree for the leading character nor the bucket's mark; what was fetched and
decoded once is never requested again, and what failed is requested again by the next search that needs it. -/
theorem request_discipline (l : Loader) (least : Nat) (entries : Option EntryList)
    (before : List (Source × String)) (source : Source) (term : String) :
    ((opened l least entries).searchedAll before).Discipline source term := by
  generalize (opened l least entries).searchedAll before = e
  refine ⟨?_, ⟨fun hne => ?_, ?_⟩, fun first shard hr hl later => ?_, fun first cause hr hl => ?_⟩
  · refine (requests_cases e source term).imp_right ?_
    rintro ⟨first, rest, hneeds, hr⟩
    exact ⟨first, rest, hneeds.asks.lower, hr⟩
  · rcases requests_cases e source term with hr | ⟨first, rest, hneeds, -⟩
    · exact absurd hr hne
    · exact ⟨first, rest, hneeds⟩
  · rintro ⟨first, rest, hneeds⟩
    simp [requests_of_needs hneeds]
  · have hmarked : (e.searched source term).store.isFetched (.ofChar first) = true :=
      isFetched_searched_iff.mpr (.inr ⟨by simp [hr], shard, hl⟩)
    exact not_mem_requestsIn hmarked later
  · have hmem : e.loader.resource (.ofChar first) ∈ (e.trySearch source term).requests := by simp [hr]
    obtain ⟨c, rest, hneeds, hb⟩ := needs_of_mem_requests hmem
    have hkept : (e.searched source term).store = e.store := store_of_failed hneeds (hb ▸ hl)
    refine ⟨hkept, fun between hnot source' term' first' rest' hb' hq habsent => ?_⟩
    have hunmarked : (e.searched source term).store.isFetched (.ofChar first) = false := by
      rw [hkept, ← hb]
      exact hneeds.unmarked
    have hstill := unmarked_searchedAll hunmarked hnot
    have hframe := searchedAll_frame (e.searched source term) between
    have hneeds' : ((e.searched source term).searchedAll between).Needs term' first' rest' := by
      refine ⟨?_, habsent, by rw [hb']; exact hstill⟩
      rw [hframe]
      exact hq
    rw [requests_of_needs hneeds', hb', hframe]
    rfl

/-- A resource that is missing is requested again, also after a search that succeeds. -/
theorem request_discipline_zebra :
    ((opened (.ofExtension "js") 2 none).trySearch .cats "zebra").requests = ["z.js"] ∧
    (((opened (.ofExtension "js") 2 none).searchedAll [(.cats, "zebra"), (.cats, "cat")]).trySearch .cats "zoo").requests =
      ["z.js"] := by
  have hrequest : ((opened (.ofExtension "js") 2 none).trySearch .cats "zebra").requests = ["z.js"] := by cbv
  have hfailed : (Loader.ofExtension "js").load .cats (.ofChar 'z') = .error (.fetch (.status "z.js" 404)) := by cbv
  have hbetween : "z.js" ∉ ((opened (.ofExtension "js") 2 none).searched .cats "zebra").requestsIn [(.cats, "cat")] := by
    have hcat : ((opened (.ofExtension "js") 2 none).searched .cats "zebra").requestsIn [(.cats, "cat")] = ["c.js"] := by
      cbv
    simp [hcat]
  have hasks : Asks 2 "zoo" 'z' ['o', 'o'] := ⟨by decide, by decide⟩
  have habsent : ((opened (.ofExtension "js") 2 none).searchedAll [(.cats, "zebra"), (.cats, "cat")]).store.get? 'z' =
      none := by cbv
  have hagain := (request_discipline (.ofExtension "js") 2 none [] .cats "zebra").again 'z' _ hrequest hfailed
  exact ⟨hrequest, hagain.2 [(.cats, "cat")] hbetween .cats "zoo" 'z' ['o', 'o'] rfl hasks habsent⟩

end ShardSearch.Engine
