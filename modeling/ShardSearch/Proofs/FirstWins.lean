/-
The store over its whole history: a map that only grows, in which the first tree given for a
character stays.

Everything is read off one list. `newcomers` are the pairs that find no tree for their character
when their turn comes; storing a bucket appends them to the trees (`pairs_insertBucket`), counts them
and sets the mark, and nothing else. They are the first pairs of the characters that had no tree
(`mem_newcomers_iff`), each character once. So what a store answers that was filled from nothing is a
matter of which pair was given first (`Recorded`).
-/
import ShardSearch.Proofs.KeyedOrder
import ShardSearch.Proofs.StoreFacts

namespace ShardSearch.Store

/-! ## What storing a bucket adds -/

/-- The pairs that find no tree for their character when their turn comes. -/
def newcomers (s : Store) : List (Char × Tree) → List (Char × Tree)
  | [] => []
  | (c, t) :: trees =>
    if s.contains c then s.newcomers trees else (c, t) :: (s.add c t).newcomers trees

theorem isSome_lookup_iff {trees : List (Char × Tree)} {c : Char} :
    (trees.lookup c).isSome = true ↔ c ∈ trees.map Prod.fst := by
  rw [List.lookup_isSome_iff, List.mem_map]
  simp only [beq_iff_eq, eq_comm (a := c)]

theorem contains_iff_mem {s : Store} {c : Char} : s.contains c = true ↔ c ∈ s.trees.pairs.map Prod.fst :=
  Table.contains_iff_mem

theorem pairs_add (s : Store) (c : Char) (t : Tree) :
    (s.add c t).trees.pairs = if s.contains c then s.trees.pairs else s.trees.pairs ++ [(c, t)] :=
  Table.pairs_add s.trees c t

theorem add_of_contains {s : Store} {c : Char} (h : s.contains c = true) (t : Tree) : s.add c t = s := by
  ext1
  · ext1
    rw [pairs_add, if_pos h]
  · rfl

theorem pairs_addAll (s : Store) (trees : List (Char × Tree)) :
    (s.addAll trees).trees.pairs = s.trees.pairs ++ s.newcomers trees := by
  induction trees generalizing s with
  | nil => simp [addAll, newcomers]
  | cons p trees ih =>
    obtain ⟨c, t⟩ := p
    rw [addAll_cons, ih, newcomers]
    by_cases hc : s.contains c = true
    · rw [if_pos hc, add_of_contains hc]
    · rw [if_neg hc, pairs_add, if_neg hc, List.append_assoc, List.singleton_append]

theorem trees_markFetched (s : Store) (b : Bucket) : (s.markFetched b).trees = s.trees := by
  unfold markFetched
  split <;> rfl

/-- Storing a bucket appends the newcomers. -/
theorem pairs_insertBucket (s : Store) (b : Bucket) (trees : List (Char × Tree)) :
    (s.insertBucket b trees).1.trees.pairs = s.trees.pairs ++ s.newcomers trees := by
  rw [insertBucket, trees_markFetched, pairs_addAll]

/-- It sets the mark of the bucket. -/
theorem fetched_insertBucket (s : Store) (b : Bucket) (trees : List (Char × Tree)) :
    (s.insertBucket b trees).1.fetched = if s.isFetched b then s.fetched else s.fetched ++ [b] := by
  rw [insertBucket, markFetched, isFetched, fetched_addAll, ← isFetched]
  split
  · exact fetched_addAll s trees
  · rfl

/-- It returns how many newcomers there were. -/
theorem returned_insertBucket (s : Store) (b : Bucket) (trees : List (Char × Tree)) :
    (s.insertBucket b trees).2 = (s.newcomers trees).length := by
  simp [insertBucket, size, pairs_addAll]

/-! ## Who the newcomers are -/

theorem get?_eq_none_of_mem_newcomers {s : Store} {trees : List (Char × Tree)} {c : Char} {t : Tree}
    (h : (c, t) ∈ s.newcomers trees) : s.get? c = none := by
  induction trees generalizing s with
  | nil => simp [newcomers] at h
  | cons p trees ih =>
    obtain ⟨d, u⟩ := p
    rw [newcomers] at h
    by_cases hd : s.contains d = true
    · rw [if_pos hd] at h
      exact ih h
    · rw [if_neg hd, List.mem_cons] at h
      rcases h with h | h
      · cases h
        exact contains_eq_false_iff.mp (by simpa using hd)
      · have hnone := ih h
        rw [get?_add, Option.or_eq_none_iff] at hnone
        exact hnone.1

/-- No character comes in twice. -/
theorem newcomers_nodup (s : Store) (trees : List (Char × Tree)) :
    ((s.newcomers trees).map Prod.fst).Nodup := by
  induction trees generalizing s with
  | nil => simp [newcomers]
  | cons p trees ih =>
    obtain ⟨c, t⟩ := p
    rw [newcomers]
    by_cases hc : s.contains c = true
    · rw [if_pos hc]
      exact ih s
    · rw [if_neg hc, List.map_cons, List.nodup_cons]
      refine ⟨fun hmem => ?_, ih (s.add c t)⟩
      obtain ⟨⟨d, u⟩, hmem, rfl⟩ := List.mem_map.mp hmem
      -- Its own tree is there by now.
      have hnone := get?_eq_none_of_mem_newcomers hmem
      simp at hnone

theorem get?_append_newcomers (s : Store) (trees : List (Char × Tree)) (c : Char) :
    (s.get? c).or ((s.newcomers trees).lookup c) = (s.get? c).or (trees.lookup c) := by
  have htrees := get?_addAll s trees c
  rw [get?, Table.get?, pairs_addAll, List.lookup_append] at htrees
  exact htrees

/-- The newcomers are the first pairs of the characters that had no tree. -/
theorem mem_newcomers_iff {s : Store} {trees : List (Char × Tree)} {c : Char} {t : Tree} :
    (c, t) ∈ s.newcomers trees ↔ s.get? c = none ∧ trees.lookup c = some t := by
  have hlookup : (s.newcomers trees).lookup c = some t ↔ (c, t) ∈ s.newcomers trees :=
    Table.lookup_eq_some_iff (newcomers_nodup s trees)
  have hfirst := get?_append_newcomers s trees c
  constructor
  · intro h
    have hnone := get?_eq_none_of_mem_newcomers h
    rw [hnone, Option.none_or, Option.none_or] at hfirst
    exact ⟨hnone, hfirst.symm.trans (hlookup.mpr h)⟩
  · intro h
    rw [h.1, Option.none_or, Option.none_or] at hfirst
    exact hlookup.mp (hfirst.trans h.2)

/-- Where no character is given twice, all pairs come in whose character had no tree. -/
theorem newcomers_of_nodup {trees : List (Char × Tree)} (h : (trees.map Prod.fst).Nodup) (s : Store) :
    s.newcomers trees = trees.filter fun p => !s.contains p.1 := by
  induction trees generalizing s with
  | nil => rfl
  | cons p trees ih =>
    obtain ⟨c, t⟩ := p
    rw [List.map_cons, List.nodup_cons] at h
    rw [newcomers, List.filter_cons]
    by_cases hc : s.contains c = true
    · simp only [hc, if_true, Bool.not_true, Bool.false_eq_true, if_false]
      exact ih h.2 s
    · simp only [hc, if_false, Bool.false_eq_true, Bool.not_false, if_true]
      rw [ih h.2]
      congr 1
      refine List.filter_congr fun q hq => ?_
      have hne : q.1 ≠ c := by
        intro heq
        exact h.1 (List.mem_map.mpr ⟨q, hq, heq⟩)
      have hbeq : (q.1 == c) = false := by simpa using hne
      simp [contains_eq_isSome, List.lookup_cons, hbeq]

theorem fst_mem_newcomers_iff {s : Store} {trees : List (Char × Tree)} {c : Char} :
    c ∈ (s.newcomers trees).map Prod.fst ↔ c ∈ trees.map Prod.fst ∧ s.contains c = false := by
  rw [contains_eq_false_iff, ← @isSome_lookup_iff trees, Option.isSome_iff_exists]
  constructor
  · intro h
    obtain ⟨⟨_, t⟩, hmem, rfl⟩ := List.mem_map.mp h
    obtain ⟨hnone, hfirst⟩ := mem_newcomers_iff.mp hmem
    exact ⟨⟨t, hfirst⟩, hnone⟩
  · intro h
    obtain ⟨⟨t, hfirst⟩, hnone⟩ := h
    exact List.mem_map.mpr ⟨(c, t), mem_newcomers_iff.mpr ⟨hnone, hfirst⟩, rfl⟩

/-- As many come in as there are characters without a tree, however often each of them is given. -/
theorem length_newcomers (s : Store) (trees : List (Char × Tree)) :
    (s.newcomers trees).length = (trees.map Prod.fst).dedup.countP fun c => !s.contains c := by
  have hdistinct : ((trees.map Prod.fst).dedup.filter fun c => !s.contains c).Nodup :=
    (List.nodup_dedup _).filter _
  have hperm : ((s.newcomers trees).map Prod.fst).Perm
      ((trees.map Prod.fst).dedup.filter fun c => !s.contains c) := by
    rw [List.perm_ext_iff_of_nodup (newcomers_nodup s trees) hdistinct]
    intro c
    rw [fst_mem_newcomers_iff]
    simp
  rw [List.countP_eq_length_filter, ← hperm.length_eq, List.length_map]

/-! ## Characters and their number -/

theorem size_insertBucket (s : Store) (b : Bucket) (trees : List (Char × Tree)) :
    (s.insertBucket b trees).1.size = s.size + (s.insertBucket b trees).2 := by
  rw [size, pairs_insertBucket, List.length_append, returned_insertBucket, size]

theorem mem_keys_iff {s : Store} {c : Char} : c ∈ s.keys ↔ s.contains c = true := by
  rw [keys, List.mem_mergeSort, contains_iff_mem]

theorem length_keys (s : Store) : s.keys.length = s.size := by
  rw [keys, List.length_mergeSort, List.length_map, size]

theorem keys_increasing (s : Store) : s.keys.Pairwise (· < ·) := by
  have hle : s.keys.Pairwise fun a b => decide (a ≤ b) = true := by
    refine List.pairwise_mergeSort ?_ ?_ _
    · intro a b c hab hbc
      simp only [decide_eq_true_eq] at hab hbc ⊢
      exact Char.le_trans hab hbc
    · intro a b
      simpa using Char.le_total a b
  have hne : s.keys.Nodup := (List.mergeSort_perm _ _).nodup_iff.mpr s.trees.distinct
  refine List.Pairwise.imp₂ ?_ hle hne
  intro a b hab hne
  simp only [decide_eq_true_eq] at hab
  exact lt_of_le_of_ne hab hne

/-! ## Buckets stored one after another -/

/-- Stores buckets one after another. Returns what each of them returned. -/
def insertAll (s : Store) : List (Bucket × List (Char × Tree)) → Store × List Nat
  | [] => (s, [])
  | (b, trees) :: calls =>
    let one := s.insertBucket b trees
    let rest := one.1.insertAll calls
    (rest.1, one.2 :: rest.2)

/-- All pairs that were given, in the order in which they were given. -/
def given (calls : List (Bucket × List (Char × Tree))) : List (Char × Tree) := calls.flatMap Prod.snd

section

variable (s : Store) (calls : List (Bucket × List (Char × Tree)))

theorem get?_insertAll (c : Char) : (s.insertAll calls).1.get? c = (s.get? c).or ((given calls).lookup c) := by
  induction calls generalizing s with
  | nil => simp [insertAll, given]
  | cons call calls ih =>
    obtain ⟨b, trees⟩ := call
    have hgiven : given ((b, trees) :: calls) = trees ++ given calls := rfl
    rw [insertAll, ih, get?_insertBucket, hgiven, List.lookup_append, Option.or_assoc]

theorem isFetched_insertAll (b : Bucket) :
    (s.insertAll calls).1.isFetched b = true ↔ s.isFetched b = true ∨ b ∈ calls.map Prod.fst := by
  induction calls generalizing s with
  | nil => simp [insertAll]
  | cons call calls ih =>
    obtain ⟨b', trees⟩ := call
    rw [insertAll, ih, isFetched_insertBucket, List.map_cons, List.mem_cons, or_assoc]

theorem size_insertAll : (s.insertAll calls).1.size = s.size + (s.insertAll calls).2.sum := by
  induction calls generalizing s with
  | nil => simp [insertAll]
  | cons call calls ih =>
    obtain ⟨b, trees⟩ := call
    have hone := size_insertBucket s b trees
    have hrest := ih (s.insertBucket b trees).1
    simp only [insertAll, List.sum_cons]
    omega

theorem returned_insertAll (before after : List (Bucket × List (Char × Tree))) (b : Bucket)
    (trees : List (Char × Tree)) :
    (s.insertAll (before ++ (b, trees) :: after)).2[before.length]? =
      some ((s.insertAll before).1.insertBucket b trees).2 := by
  induction before generalizing s with
  | nil => rfl
  | cons call before ih =>
    rw [List.cons_append, insertAll, List.length_cons, List.getElem?_cons_succ]
    exact ih (s.insertBucket call.1 call.2).1

end

theorem contains_insertAll_empty {calls : List (Bucket × List (Char × Tree))} {c : Char} :
    (empty.insertAll calls).1.contains c = true ↔ c ∈ (given calls).map Prod.fst := by
  rw [contains_iff, ← Option.isSome_iff_exists, get?_insertAll, get?_empty, Option.none_or, isSome_lookup_iff]

/-- What a store and the numbers that were returned say of the buckets that were stored. -/
structure Recorded (calls : List (Bucket × List (Char × Tree))) (s : Store) (returned : List Nat) : Prop where
  /-- A character has the first tree that was given for it. -/
  first : ∀ c, s.get? c = (given calls).lookup c
  /-- It keeps that tree, whatever is stored later. -/
  stays : ∀ c t, s.get? c = some t → ∀ later, (s.insertAll later).1.get? c = some t
  contains : ∀ c, s.contains c = true ↔ ∃ t, s.get? c = some t
  increasing : s.keys.Pairwise (· < ·)
  keys : ∀ c, c ∈ s.keys ↔ c ∈ (given calls).map Prod.fst
  size : s.size = s.keys.length
  isEmpty : s.isEmpty = true ↔ s.size = 0
  sum : returned.sum = s.size
  /-- A call returns for how many characters it was the first to give a tree. -/
  each : ∀ before b trees after, calls = before ++ (b, trees) :: after →
    returned[before.length]? =
      some ((trees.map Prod.fst).dedup.countP fun c => c ∉ (given before).map Prod.fst)
  /-- A bucket is remembered if it was stored, even without a tree. -/
  fetched : ∀ b, s.isFetched b = true ↔ ∃ trees, (b, trees) ∈ calls

/-- **The first tree wins.** After any buckets were stored one after another in an empty store, with any
lists and characters given any number of times, each question to the store has the answer that the
history of the calls gives. -/
theorem insertAll_recorded (calls : List (Bucket × List (Char × Tree))) :
    Recorded calls (empty.insertAll calls).1 (empty.insertAll calls).2 where
  first c := by rw [get?_insertAll, get?_empty, Option.none_or]
  stays c t h later := by rw [get?_insertAll, h, Option.some_or]
  contains c := contains_iff
  increasing := keys_increasing _
  keys c := by rw [mem_keys_iff, contains_insertAll_empty]
  size := (length_keys _).symm
  isEmpty := by simp [Store.isEmpty]
  sum := by
    have hsize := size_insertAll empty calls
    have hnone : empty.size = 0 := rfl
    omega
  each before b trees after hcalls := by
    rw [hcalls, returned_insertAll, returned_insertBucket, length_newcomers]
    refine congrArg some (List.countP_congr fun c _ => ?_)
    rw [decide_eq_true_eq, ← contains_insertAll_empty, Bool.not_eq_true', Bool.not_eq_true]
  fetched b := by
    rw [isFetched_insertAll, isFetched_empty]
    simp

/-- A character twice in one list, then again, then a bucket without trees. -/
example : (empty.insertAll [(.letter 'a', [('a', .leaf), ('a', .leaf)]), (.other, [('1', .leaf), ('a', .leaf)]),
    (.letter 'b', [])]).2 = [1, 1, 0] := by decide

end ShardSearch.Store
