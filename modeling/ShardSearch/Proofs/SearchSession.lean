/-
Searches made one after another on a session.

`Took` says once what a search may do to a session: nothing, or one request for its bucket that
fails and changes nothing or succeeds and stores the shard. From it, every store that a session
reaches on an index that does not change is faithful, so earlier searches cannot be noticed in
later answers, shadowed letters apart.
-/
import ShardSearch.Proofs.CacheInvariant

namespace ShardSearch.Engine

/-- What a search may do. The events it reports are left open. -/
inductive Took (e : Engine) (source : Source) (term : String) : Turn (Except SearchError Matches) → Prop
  | tooShort {events : List Event} : (∀ first rest, ¬ Asks e.leastLength term first rest) →
    Took e source term ⟨.error (.tooShort (Text.lowercase term) e.leastLength), e.store, [], events⟩
  | present {first : Char} {rest : List Char} {events : List Event} : Asks e.leastLength term first rest →
    e.store.contains first = true ∨ e.store.isFetched (.ofChar first) = true →
    Took e source term ⟨lookIn e.store first rest, e.store, [], events⟩
  | failed {first : Char} {rest : List Char} {cause : LoadError} {events : List Event} :
    Asks e.leastLength term first rest →
    e.store.get? first = none → e.store.isFetched (.ofChar first) = false →
    e.loader.load source (.ofChar first) = .error cause →
    Took e source term ⟨.error (.unavailable (Bucket.ofChar first).name cause), e.store,
      [e.loader.resource (.ofChar first)], events⟩
  | loaded {first : Char} {rest : List Char} {shard : Shard} {store : Store} {events : List Event} :
    Asks e.leastLength term first rest →
    e.store.get? first = none → e.store.isFetched (.ofChar first) = false →
    e.loader.load source (.ofChar first) = .ok shard →
    store = (e.store.insertBucket (.ofChar first) (shard.trees (.ofChar first))).1 →
    Took e source term ⟨lookIn store first rest, store, [e.loader.resource (.ofChar first)], events⟩

theorem trySearch_of_not_asks {e : Engine} {source : Source} {term : String}
    (h : ∀ first rest, ¬ Asks e.leastLength term first rest) : e.trySearch source term =
      ⟨.error (.tooShort (Text.lowercase term) e.leastLength), e.store, [], []⟩ := by
  rw [trySearch, Text.lowercase]
  cases hq : Text.lower term.toList with
  | nil => rfl
  | cons first rest =>
    have hshort : ¬ e.leastLength ≤ (first :: rest).length := fun he => h first rest ⟨hq, he⟩
    simp only [searchLower, if_neg hshort]

theorem trySearch_of_asks {e : Engine} {source : Source} {term : String} {first : Char} {rest : List Char}
    (h : Asks e.leastLength term first rest) : e.trySearch source term =
      { e.ensureLoaded source first with result := match (e.ensureLoaded source first).result with
          | .error cause => .error cause
          | .ok () => lookIn (e.ensureLoaded source first).store first rest } := by
  rw [trySearch, h.lower]
  exact if_pos h.enough

theorem trySearch_took (e : Engine) (source : Source) (term : String) :
    Took e source term (e.trySearch source term) := by
  by_cases hq : ∃ first rest, Asks e.leastLength term first rest
  · obtain ⟨first, rest, hasks⟩ := hq
    rw [trySearch_of_asks hasks]
    by_cases hc : e.store.contains first = true
    · simp only [ensureLoaded, if_pos hc]
      exact .present hasks (.inl hc)
    by_cases hf : e.store.isFetched (.ofChar first) = true
    · simp only [ensureLoaded, if_neg hc, if_pos hf]
      exact .present hasks (.inr hf)
    have hnone : e.store.get? first = none := by simpa [Store.contains_eq_isSome] using hc
    simp only [Bool.not_eq_true] at hf
    cases hl : e.loader.load source (.ofChar first) with
    | error cause =>
      simp only [ensureLoaded, if_neg hc, hf, Bool.false_eq_true, if_false, Loader.loadInto, hl]
      exact .failed hasks hnone hf hl
    | ok shard =>
      simp only [ensureLoaded, if_neg hc, hf, Bool.false_eq_true, if_false, Loader.loadInto, hl]
      exact .loaded hasks hnone hf hl rfl
  · have hnot : ∀ first rest, ¬ Asks e.leastLength term first rest := fun first rest h =>
      hq ⟨first, rest, h⟩
    rw [trySearch_of_not_asks hnot]
    exact .tooShort hnot

/-- The session after a search. -/
def searched (e : Engine) (source : Source) (term : String) : Engine :=
  { e with store := (e.trySearch source term).store }

/-- The session after searches made one after another, each on the index as it answers then. -/
def searchedAll (e : Engine) (turns : List (Source × String)) : Engine :=
  turns.foldl (fun e turn => e.searched turn.1 turn.2) e

/-- A session with nothing loaded. -/
def opened (l : Loader) (least : Nat) (entries : Option EntryList) : Engine := ⟨l, least, entries, .empty⟩

/-- A session after searches of some terms on an index that does not change. -/
def session (l : Loader) (least : Nat) (entries : Option EntryList) (source : Source) (terms : List String) :
    Engine :=
  (opened l least entries).searchedAll (terms.map fun term => (source, term))

/-! ## Every reachable session -/

section

variable {source : Source}

/-- What a search does to the store: nothing, or it stores a shard that it loaded. -/
theorem store_searched_cases (e : Engine) (source : Source) (term : String) :
    (e.searched source term).store = e.store ∨
      ∃ first shard, e.store.isFetched (.ofChar first) = false ∧
        e.loader.load source (.ofChar first) = .ok shard ∧
        (e.searched source term).store = (e.store.insertBucket (.ofChar first) (shard.trees (.ofChar first))).1 := by
  have htook := trySearch_took e source term
  simp only [searched]
  generalize e.trySearch source term = t at htook ⊢
  cases htook with
  | tooShort | present | failed => exact .inl rfl
  | loaded _ _ hunmarked hl hstore => exact .inr ⟨_, _, hunmarked, hl, hstore⟩

theorem searched_faithful {e : Engine} (h : e.store.Faithful e.loader source) (term : String) :
    (e.searched source term).store.Faithful e.loader source := by
  rcases store_searched_cases e source term with hsame | ⟨first, shard, -, hl, hstore⟩
  · rw [hsame]
    exact h
  · rw [hstore]
    exact h.insertBucket hl

theorem searchedAll_faithful {e : Engine} (h : e.store.Faithful e.loader source) (terms : List String) :
    (e.searchedAll (terms.map fun term => (source, term))).store.Faithful e.loader source := by
  induction terms generalizing e with
  | nil => exact h
  | cons term terms ih =>
    have hnext : (e.searched source term).store.Faithful (e.searched source term).loader source :=
      searched_faithful h term
    exact ih hnext

/-- What every search keeps, whatever the index answers, is kept by all of them. -/
theorem searchedAll_invariant {P : Engine → Prop} (hstep : ∀ e source term, P e → P (e.searched source term))
    {e : Engine} (h : P e) (turns : List (Source × String)) : P (e.searchedAll turns) := by
  induction turns generalizing e with
  | nil => exact h
  | cons turn turns ih => exact ih (hstep e turn.1 turn.2 h)

/-- Searches change nothing of a session but its store. -/
theorem searchedAll_frame (e : Engine) (turns : List (Source × String)) :
    e.searchedAll turns = { e with store := (e.searchedAll turns).store } := by
  induction turns generalizing e with
  | nil => rfl
  | cons turn turns ih => exact ih (e.searched turn.1 turn.2)

/-- A tree that was loaded for the search itself answers it as the index does. -/
theorem lookIn_insertBucket {l : Loader} {least : Nat} {term : String} {first : Char} {rest : List Char}
    {shard : Shard} {store : Store} (hq : Asks least term first rest) (hnone : store.get? first = none)
    (hl : l.load source (.ofChar first) = .ok shard) :
    lookIn (store.insertBucket (.ofChar first) (shard.trees (.ofChar first))).1 first rest =
      direct l least source term := by
  rw [lookIn_eq_answer, Store.get?_insertBucket, hnone, Option.none_or, Loader.lookup_ofChar hl,
    direct_of_asks hq, hl]

/-- A search answers as the index does, or from what was in the store before it. -/
theorem trySearch_cases (e : Engine) (source : Source) (term : String) :
    (e.trySearch source term).result = direct e.loader e.leastLength source term ∨
      ∃ first rest, Asks e.leastLength term first rest ∧
        (e.store.contains first = true ∨ e.store.isFetched (.ofChar first) = true) ∧
        (e.trySearch source term).result = lookIn e.store first rest := by
  have htook := trySearch_took e source term
  generalize e.trySearch source term = t at htook ⊢
  cases htook with
  | tooShort hnot => exact .inl (direct_of_not_asks hnot).symm
  | present hq hin => exact .inr ⟨_, _, hq, hin, rfl⟩
  | failed hq _ _ hl => exact .inl (by rw [direct_of_asks hq, hl])
  | loaded hq hnone _ hl hstore => exact .inl (by rw [hstore, lookIn_insertBucket hq hnone hl])

theorem trySearch_eq_direct {e : Engine} (h : e.store.Faithful e.loader source) {term : String}
    (hs : ∀ c ∈ (Text.lower term.toList).head?, ¬ e.loader.Shadows source c) :
    (e.trySearch source term).result = direct e.loader e.leastLength source term := by
  rcases trySearch_cases e source term with hr | ⟨first, rest, hq, hin, hr⟩
  · exact hr
  · rw [hr, h.lookIn_eq hq (hs first (by simp [hq.lower])) hin]

section

variable (l : Loader) (least : Nat) (entries : Option EntryList) (source : Source) (terms : List String)

@[simp] theorem session_loader : (session l least entries source terms).loader = l :=
  congrArg Engine.loader (searchedAll_frame ..)

@[simp] theorem session_leastLength : (session l least entries source terms).leastLength = least :=
  congrArg Engine.leastLength (searchedAll_frame ..)

/-- The store of every session is faithful. -/
theorem session_faithful : (session l least entries source terms).store.Faithful l source :=
  searchedAll_faithful (e := opened l least entries) .empty terms

/-- The answers of a session are those of the index, shadowed letters apart. -/
theorem session_trySearch {term : String} (hs : ∀ c ∈ (Text.lower term.toList).head?, ¬ l.Shadows source c) :
    ((session l least entries source terms).trySearch source term).result = direct l least source term := by
  have hfaithful : (session l least entries source terms).store.Faithful
      (session l least entries source terms).loader source := by
    rw [session_loader]
    exact session_faithful l least entries source terms
  have hshadows : ∀ c ∈ (Text.lower term.toList).head?,
      ¬ (session l least entries source terms).loader.Shadows source c := by
    rw [session_loader]
    exact hs
  rw [trySearch_eq_direct hfaithful hshadows, session_loader, session_leastLength]

end

end

end ShardSearch.Engine
