/-
What one search may change, from any store and whatever the index answers.

A search that ends because its term is too short or its shard cannot be had leaves the store as it
was, to the last entry. Any other search leaves it as it was as well, or it needed a shard and got
it: then its bucket is marked, and the trees that came in are those which the answer has for
characters without a tree (`insertBucket_gained`). What was there stays.
-/
import ShardSearch.Proofs.FirstWins
import ShardSearch.Proofs.RequestHistory

namespace ShardSearch

/-- The trees that a body has for a bucket, by character: the tree of a letter's shard is for the letter,
and a tree of the merged shard is for the character that is its whole key. -/
def Bucket.Offers (b : Bucket) (body : String) (c : Char) (t : Tree) : Prop :=
  match b with
  | .letter d => c = d ∧ Tree.decode body = .ok t
  | .other => ∃ m, Tree.decodeMap body = .ok m ∧ ([c], t) ∈ m

/-- What a store gains from a body: the mark of the bucket, and one tree for each character that the body
has one for and the store had none for. -/
structure Store.Gained (s s' : Store) (b : Bucket) (body : String) : Prop where
  fetched : s'.fetched = s.fetched ++ [b]
  trees : ∃ added, s'.trees.pairs = s.trees.pairs ++ added ∧ (added.map Prod.fst).Nodup ∧
    ∀ c t, (c, t) ∈ added ↔ s.get? c = none ∧ b.Offers body c t

theorem Shard.lookup_trees_iff {b : Bucket} {body : String} {shard : Shard} (h : decode b body = .ok shard)
    {c : Char} {t : Tree} : (shard.trees b).lookup c = some t ↔ b.Offers body c t := by
  cases b with
  | letter d =>
    obtain ⟨u, hu, rfl⟩ := decode_letter h
    by_cases hc : c = d
    · subst hc
      simp [trees, Bucket.Offers, hu]
    · have hne : (c == d) = false := by simpa using hc
      simp [trees, Bucket.Offers, List.lookup_cons, hne, hc]
  | other =>
    obtain ⟨m, hm, rfl⟩ := decode_other h
    rw [trees, lookup_reachable, Table.lookup_eq_some_iff m.toTable.distinct]
    simp only [Bucket.Offers, hm, Except.ok.injEq, exists_eq_left']
    rfl

theorem Store.insertBucket_gained {s : Store} {b : Bucket} {body : String} {shard : Shard}
    (hunmarked : s.isFetched b = false) (h : Shard.decode b body = .ok shard) :
    s.Gained (s.insertBucket b (shard.trees b)).1 b body where
  fetched := by simp [fetched_insertBucket, hunmarked]
  trees := by
    refine ⟨s.newcomers (shard.trees b), pairs_insertBucket s b _, newcomers_nodup s _, fun c t => ?_⟩
    rw [mem_newcomers_iff, Shard.lookup_trees_iff h]

namespace Engine

/-- Whether a search ended before it could look anything up. -/
def Stopped : Except SearchError Matches → Prop
  | .error (.tooShort _ _) => True
  | .error (.unavailable _ _) => True
  | _ => False

theorem not_stopped_lookIn (s : Store) (first : Char) (rest : List Char) : ¬ Stopped (lookIn s first rest) := by
  unfold lookIn
  split
  · exact id
  · split <;> exact id

/-- What a search does to the store. -/
structure Effect (e : Engine) (source : Source) (term : String) : Prop where
  /-- A search that ends before it looks anything up changes nothing. -/
  stopped : Stopped (e.trySearch source term).result → (e.trySearch source term).store = e.store
  /-- Any other one changes nothing if it needs no shard, and else stores the one it got. -/
  otherwise : ¬ Stopped (e.trySearch source term).result →
    (e.trySearch source term).store = e.store ∧ (∀ first rest, ¬ e.Needs term first rest) ∨
    ∃ first rest body shard, e.Needs term first rest ∧
      source.fetch (e.loader.resource (.ofChar first)) = .ok body ∧ Shard.decode (.ofChar first) body = .ok shard ∧
      e.store.Gained (e.trySearch source term).store (.ofChar first) body
  /-- A tree that was there is still there. -/
  kept : ∀ c t, e.store.get? c = some t → (e.trySearch source term).store.get? c = some t

/-- **What one search may change.** From any store, whatever the index answers and whatever the term is, a
search that is refused leaves the store as it was, any other one leaves it so too or adds its bucket with
the trees that were missing, and no tree is ever replaced. -/
theorem trySearch_effect (e : Engine) (source : Source) (term : String) : e.Effect source term := by
  have htook := trySearch_took e source term
  generalize ht : e.trySearch source term = t at htook
  constructor <;> rw [ht]
  · intro hstopped
    cases htook with
    | tooShort | present | failed => rfl
    | loaded => exact absurd hstopped (not_stopped_lookIn _ _ _)
  · intro hnot
    cases htook with
    | tooShort => exact absurd trivial hnot
    | failed => exact absurd trivial hnot
    | present hq hin => exact .inl ⟨rfl, fun first rest hneeds => hneeds.not_present hq hin⟩
    | @loaded first rest shard _ _ hq hnone hunmarked hl hstore =>
      obtain ⟨body, hbody, hdecode⟩ := Loader.load_eq_ok hl
      refine .inr ⟨first, rest, body, shard, ⟨hq, hnone, hunmarked⟩, hbody, hdecode, ?_⟩
      rw [hstore]
      exact Store.insertBucket_gained hunmarked hdecode
  · intro c tree hc
    cases htook with
    | tooShort | present | failed => exact hc
    | loaded _ _ _ _ hstore =>
      rw [hstore]
      exact (Store.Within.insertBucket _ _ _).get? hc

/-- A session with a tree for `c` and nothing else. -/
def holdsC : Engine := ⟨.ofExtension "js", 2, none, ⟨⟨[('c', .leaf)], List.nodup_singleton 'c'⟩, [.letter 'c']⟩⟩

/-- An index whose merged shard has keys of one character and of two, and one for `c`. -/
def digits : Source where
  fetch resource :=
    if resource = "_.js" then
      .ok "\x7b\"1\":[\x7b\"0\":[\x7b\x7d,[\"docE\"]]\x7d],\"c\":[\x7b\x7d],\"xy\":[\x7b\x7d]\x7d"
    else .error (.status resource 404)
  locate resource := resource

/-- A search that finds no path has stored the merged shard all the same, less the tree for `c`. -/
theorem trySearch_effect_digits : (holdsC.trySearch digits "1x").result = .error (.noPath "1x") ∧
    (holdsC.trySearch digits "1x").store.fetched = [.letter 'c', .other] ∧
    (holdsC.trySearch digits "1x").store.get? 'c' = some .leaf ∧
    ∃ body added, digits.fetch "_.js" = .ok body ∧
      (holdsC.trySearch digits "1x").store.trees.pairs = ('c', .leaf) :: added ∧
      ∀ c t, (c, t) ∈ added ↔ holdsC.store.get? c = none ∧ Bucket.other.Offers body c t := by
  have hresult : (holdsC.trySearch digits "1x").result = .error (.noPath "1x") := by cbv
  have hnot : ¬ Stopped (holdsC.trySearch digits "1x").result := by
    rw [hresult]
    exact id
  have hc : holdsC.store.get? 'c' = some .leaf := by rfl
  have hneeds : holdsC.Needs "1x" '1' ['x'] := ⟨⟨by decide, by decide⟩, by decide, by decide⟩
  have heffect := trySearch_effect holdsC digits "1x"
  rcases heffect.otherwise hnot with ⟨-, hno⟩ | ⟨first, rest, body, shard, hneeds', hbody, -, hgained⟩
  · exact absurd hneeds (hno '1' ['x'])
  obtain ⟨rfl, rfl⟩ := List.cons.inj (hneeds.asks.lower.symm.trans hneeds'.asks.lower)
  have hother : Bucket.ofChar '1' = .other := by decide
  rw [hother] at hbody hgained
  obtain ⟨added, htrees, -, hadded⟩ := hgained.trees
  exact ⟨hresult, hgained.fetched, heffect.kept 'c' .leaf hc, body, added, hbody, htrees, hadded⟩

end Engine

end ShardSearch
