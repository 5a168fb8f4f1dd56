/-
What the store answers after trees were put in: the first tree given for a character stays, and a
bucket is remembered exactly if it was stored.
-/
import ShardSearch.Proofs.KeyedOrder
import ShardSearch.Store

namespace ShardSearch.Store

theorem contains_eq_isSome (s : Store) (c : Char) : s.contains c = (s.get? c).isSome := rfl

theorem contains_iff {s : Store} {c : Char} : s.contains c = true ↔ ∃ t, s.get? c = some t :=
  Option.isSome_iff_exists

theorem contains_eq_false_iff {s : Store} {c : Char} : s.contains c = false ↔ s.get? c = none :=
  Table.contains_eq_false_iff

@[simp, grind =]
theorem get?_add (s : Store) (c : Char) (t : Tree) (d : Char) :
    (s.add c t).get? d = (s.get? d).or ([(c, t)].lookup d) :=
  Table.get?_add s.trees c t d

theorem addAll_cons (s : Store) (c : Char) (t : Tree) (trees : List (Char × Tree)) :
    s.addAll ((c, t) :: trees) = (s.add c t).addAll trees := rfl

@[simp, grind =]
theorem get?_addAll (s : Store) (trees : List (Char × Tree)) (d : Char) :
    (s.addAll trees).get? d = (s.get? d).or (trees.lookup d) := by
  induction trees generalizing s with
  | nil => simp [addAll]
  | cons p trees ih =>
    obtain ⟨c, t⟩ := p
    have hcut : ((c, t) :: trees).lookup d = ([(c, t)].lookup d).or (trees.lookup d) := by
      rw [← List.lookup_append, List.singleton_append]
    rw [addAll_cons, ih, get?_add, Option.or_assoc, hcut]

@[simp, grind =]
theorem fetched_add (s : Store) (c : Char) (t : Tree) : (s.add c t).fetched = s.fetched := rfl

@[simp, grind =]
theorem fetched_addAll (s : Store) (trees : List (Char × Tree)) :
    (s.addAll trees).fetched = s.fetched := by
  induction trees generalizing s with
  | nil => rfl
  | cons p trees ih => rw [addAll_cons, ih, fetched_add]

@[simp, grind =]
theorem get?_markFetched (s : Store) (b : Bucket) (c : Char) : (s.markFetched b).get? c = s.get? c := by
  simp only [markFetched]
  split <;> rfl

@[simp, grind =]
theorem isFetched_markFetched (s : Store) (b b' : Bucket) :
    (s.markFetched b).isFetched b' = true ↔ s.isFetched b' = true ∨ b' = b := by
  simp only [markFetched]
  split
  next hb =>
    refine ⟨.inl, ?_⟩
    rintro (h | rfl)
    · exact h
    · exact hb
  next => simp [isFetched]

/-- Storing a bucket gives a tree to the characters that had none. -/
@[simp, grind =]
theorem get?_insertBucket (s : Store) (b : Bucket) (trees : List (Char × Tree)) (c : Char) :
    (s.insertBucket b trees).1.get? c = (s.get? c).or (trees.lookup c) := by
  rw [insertBucket, get?_markFetched, get?_addAll]

@[simp, grind =]
theorem isFetched_insertBucket (s : Store) (b : Bucket) (trees : List (Char × Tree)) (b' : Bucket) :
    (s.insertBucket b trees).1.isFetched b' = true ↔ s.isFetched b' = true ∨ b' = b := by
  rw [insertBucket, isFetched_markFetched, isFetched, fetched_addAll, ← isFetched]

@[simp, grind =]
theorem get?_empty (c : Char) : empty.get? c = none := rfl

@[simp, grind =]
theorem isFetched_empty (b : Bucket) : empty.isFetched b = false := rfl

/-- A store holds all that another one holds. -/
structure Within (s s' : Store) : Prop where
  get? : ∀ {c t}, s.get? c = some t → s'.get? c = some t
  isFetched : ∀ {b}, s.isFetched b = true → s'.isFetched b = true

theorem Within.refl (s : Store) : Within s s := ⟨id, id⟩

theorem Within.insertBucket (s : Store) (b : Bucket) (trees : List (Char × Tree)) :
    Within s (s.insertBucket b trees).1 where
  get? h := by simp [h]
  isFetched h := by simp [h]

theorem Within.contains {s s' : Store} (h : Within s s') {c : Char} (hc : s.contains c = true) :
    s'.contains c = true := by
  obtain ⟨t, ht⟩ := contains_iff.mp hc
  exact contains_iff.mpr ⟨t, h.get? ht⟩

end ShardSearch.Store
