/-
Storing the merged shard, in whatever order its entries come.

The store lets the first tree of a character stay, so the order of what it is given matters in
general. It does not matter for a merged shard. The keys of a shard are distinct, and the keys that
get anywhere are single characters, so no two of them are for the same one (`reachable_nodup`).
Then the entries that come in are exactly those whose key is one character without a tree
(`newcomers_reachable`), in their order, and the order cannot be seen in any answer.
-/
import ShardSearch.Proofs.CacheInvariant
import ShardSearch.Proofs.FirstWins

namespace ShardSearch

/-! ## The trees under single characters -/

theorem Shard.leading?_eq_some_iff {k : List Char} {c : Char} : leading? k = some c ↔ k = [c] := by
  match k with
  | [] => simp [leading?]
  | [d] => simp [leading?]
  | _ :: _ :: _ => simp [leading?]

theorem Shard.map_fst_reachable (m : List (List Char × Tree)) :
    (reachable m).map Prod.fst = (m.map Prod.fst).filterMap leading? := by
  simp only [reachable, List.map_filterMap, List.filterMap_map]
  refine List.filterMap_congr fun p _ => ?_
  simp [Function.comp_def]

/-- Distinct keys are for distinct characters. -/
theorem Shard.reachable_nodup (m : Table (List Char) Tree) : ((reachable m.pairs).map Prod.fst).Nodup := by
  rw [map_fst_reachable]
  refine List.Nodup.filterMap (fun k k' c hk hk' => ?_) m.distinct
  have hkey : k = [c] := leading?_eq_some_iff.mp hk
  have hkey' : k' = [c] := leading?_eq_some_iff.mp hk'
  rw [hkey, hkey']

/-- The pairs of a table whose keys pass a test. -/
def Table.filterKeys {κ α : Type} (t : Table κ α) (p : κ → Bool) : Table κ α :=
  ⟨t.pairs.filter fun q => p q.1, t.distinct.sublist (List.filter_sublist.map _)⟩

namespace Store

/-- Whether an entry of the merged shard finds a place: its key is exactly one character, and there is
no tree for it. -/
def takes (s : Store) : List Char → Bool
  | [c] => !s.contains c
  | _ => false

/-- Stores the trees of the merged shard. -/
def merge (s : Store) (m : Table (List Char) Tree) : Store × Nat :=
  s.insertBucket .other ((Shard.merged m).trees .other)

theorem takes_eq (s : Store) (k : List Char) : s.takes k = (Shard.leading? k).any fun c => !s.contains c := by
  match k with
  | [] => rfl
  | [c] => rfl
  | _ :: _ :: _ => rfl

theorem reachable_takes (s : Store) (m : List (List Char × Tree)) :
    Shard.reachable (m.filter fun p => s.takes p.1) = (Shard.reachable m).filter fun p => !s.contains p.1 := by
  simp only [Shard.reachable, List.filterMap_filter, List.filter_filterMap]
  refine List.filterMap_congr fun p _ => ?_
  rw [takes_eq]
  cases hk : Shard.leading? p.1 with
  | none => simp
  | some c => cases hc : s.contains c <;> simp [Option.filter, hc]

/-- Of the entries of the merged shard, those come in whose key finds a place. -/
theorem newcomers_reachable (s : Store) (m : Table (List Char) Tree) :
    s.newcomers (Shard.reachable m.pairs) = Shard.reachable (m.filterKeys s.takes).pairs := by
  rw [newcomers_of_nodup (Shard.reachable_nodup m), Table.filterKeys, reachable_takes]

theorem length_reachable_takes (s : Store) (m : List (List Char × Tree)) :
    (Shard.reachable (m.filter fun p => s.takes p.1)).length = m.countP fun p => s.takes p.1 := by
  rw [reachable_takes, Shard.reachable, List.filter_filterMap, List.length_filterMap_eq_countP]
  refine List.countP_congr fun p _ => ?_
  simp [takes_eq, Option.any_map]

/-! ## Any two orders -/

/-- Stores that hold the same, up to the order in which their trees came. -/
structure Alike (s s' : Store) : Prop where
  get? : ∀ c, s.get? c = s'.get? c
  fetched : s.fetched = s'.fetched

theorem pairs_merge (s : Store) (m : Table (List Char) Tree) :
    (s.merge m).1.trees.pairs = s.trees.pairs ++ Shard.reachable (m.filterKeys s.takes).pairs := by
  rw [merge, Shard.trees, pairs_insertBucket, newcomers_reachable]

theorem fetched_merge (s : Store) (m : Table (List Char) Tree) :
    (s.merge m).1.fetched = if s.isFetched .other then s.fetched else s.fetched ++ [.other] := by
  rw [merge, fetched_insertBucket]

/-- As many trees are counted as there are keys that find a place. -/
theorem returned_merge (s : Store) (m : Table (List Char) Tree) :
    (s.merge m).2 = m.pairs.countP fun p => s.takes p.1 := by
  rw [merge, Shard.trees, returned_insertBucket, newcomers_reachable]
  exact length_reachable_takes s m.pairs

theorem get?_merge (s : Store) (m : Table (List Char) Tree) (c : Char) :
    (s.merge m).1.get? c = (s.get? c).or (m.get? [c]) := by
  rw [merge, Shard.trees, get?_insertBucket, Shard.lookup_reachable, Table.get?]

theorem filterKeys_filterKeys {κ α : Type} (t : Table κ α) (p : κ → Bool) :
    (t.filterKeys p).filterKeys p = t.filterKeys p := by
  ext1
  simp only [Table.filterKeys, List.filter_filter, Bool.and_self]

/-- **The order of a merged shard's entries cannot be seen.** In whatever order the entries of one shard
come, storing them makes stores that hold the same and returns the same number: a character that had no
tree has the one of the key which is that character alone, the others keep theirs, and the bucket is
marked. The number is that of the keys which are exactly one character that had no tree, and the other
keys could as well not be there. -/
theorem merge_of_perm (s : Store) {m m' : Table (List Char) Tree} (hperm : m.pairs.Perm m'.pairs) :
    Alike (s.merge m).1 (s.merge m').1 ∧ (s.merge m).2 = (s.merge m').2 ∧
    (∀ c, (s.merge m).1.get? c = (s.get? c).or (m.get? [c])) ∧
    (∀ b, (s.merge m).1.isFetched b = true ↔ s.isFetched b = true ∨ b = .other) ∧
    (s.merge m).2 = m.pairs.countP (fun p => s.takes p.1) ∧
    s.merge (m.filterKeys s.takes) = s.merge m := by
  refine ⟨⟨fun c => ?_, ?_⟩, ?_, get?_merge s m, isFetched_insertBucket s .other _, returned_merge s m, ?_⟩
  · rw [get?_merge, get?_merge, Table.get?_perm hperm]
  · rw [fetched_merge, fetched_merge]
  · rw [returned_merge, returned_merge]
    exact hperm.countP_eq _
  · refine Prod.ext (Store.ext (Table.ext ?_) ?_) ?_
    · rw [pairs_merge, pairs_merge, filterKeys_filterKeys]
    · rw [fetched_merge, fetched_merge]
    · rw [returned_merge, returned_merge, Table.filterKeys, List.countP_filter]
      simp only [Bool.and_self]

/-- A store with a tree for `c`. -/
def onlyC : Store := ⟨⟨[('c', .leaf)], by simp⟩, [.letter 'c']⟩

/-- Entries of a merged shard of which two have a key of several characters or none. -/
def mixedEntries : Table (List Char) Tree where
  pairs := [(['1'], .leaf), (['c'], .node .nil (some [⟨"merged"⟩])), (['x', 'y'], .leaf), ([], .leaf),
    (['é'], .leaf)]
  distinct := by decide

/-- Two of the five entries come in, in this order or the other. -/
theorem merge_of_perm_mixed : ∃ m' : Table (List Char) Tree, m'.pairs = mixedEntries.pairs.reverse ∧
    mixedEntries.pairs.Perm m'.pairs ∧ Alike (onlyC.merge mixedEntries).1 (onlyC.merge m').1 ∧
    (onlyC.merge mixedEntries).2 = 2 ∧ (onlyC.merge m').2 = 2 ∧
    (onlyC.merge mixedEntries).1.get? 'c' = some .leaf ∧ (onlyC.merge mixedEntries).1.get? '1' = some .leaf := by
  have hdistinct : (mixedEntries.pairs.reverse.map Prod.fst).Nodup := by decide
  have htwo : mixedEntries.pairs.countP (fun p => onlyC.takes p.1) = 2 := by decide
  have hperm : mixedEntries.pairs.Perm (⟨_, hdistinct⟩ : Table (List Char) Tree).pairs :=
    mixedEntries.pairs.reverse_perm.symm
  obtain ⟨halike, hsame, hget, -, hcount, -⟩ := merge_of_perm onlyC hperm
  rw [htwo] at hcount
  exact ⟨⟨_, hdistinct⟩, rfl, hperm, halike, hcount, hsame ▸ hcount, hget 'c', hget '1'⟩

end Store

end ShardSearch
