/-
What tables and maps in order hold.

Keys are distinct, so looking a key up finds exactly the pair that has it, and for a map in order
what it finds determines the map (`Ascending.ext_get?`). The map of pairs is then the one map that
finds the last value under each key (`Keyed.collects_iff`).
-/
import Mathlib
import ShardSearch.Keyed

namespace ShardSearch

/-! ## Distinct keys -/

namespace Table

variable {κ α : Type} [BEq κ] [LawfulBEq κ]

/-- In a list whose keys are distinct, a key finds the pair that has it. -/
theorem lookup_eq_some_iff {pairs : List (κ × α)} (h : (pairs.map Prod.fst).Nodup) {k : κ} {x : α} :
    pairs.lookup k = some x ↔ (k, x) ∈ pairs := by
  constructor
  · intro hk
    obtain ⟨l₁, l₂, rfl, -⟩ := List.lookup_eq_some_iff.mp hk
    simp
  · intro hk
    obtain ⟨l₁, l₂, rfl⟩ := List.append_of_mem hk
    refine List.lookup_eq_some_iff.mpr ⟨l₁, l₂, rfl, fun p hp => ?_⟩
    simp only [List.map_append, List.map_cons, List.nodup_append] at h
    have hne := h.2.2 p.1 (List.mem_map_of_mem hp) k (by simp)
    simpa using hne.symm

/-- Pairs with distinct keys are the same map in every order. -/
theorem lookup_perm {pairs pairs' : List (κ × α)} (h : (pairs.map Prod.fst).Nodup) (hperm : pairs.Perm pairs')
    (k : κ) : pairs.lookup k = pairs'.lookup k := by
  have h' : (pairs'.map Prod.fst).Nodup := (hperm.map Prod.fst).nodup_iff.mp h
  ext x
  rw [lookup_eq_some_iff h, lookup_eq_some_iff h', hperm.mem_iff]

theorem get?_eq_some_iff {t : Table κ α} {k : κ} {x : α} : t.get? k = some x ↔ (k, x) ∈ t.pairs :=
  lookup_eq_some_iff t.distinct

theorem get?_perm {t t' : Table κ α} (h : t.pairs.Perm t'.pairs) (k : κ) : t.get? k = t'.get? k :=
  lookup_perm t.distinct h k

omit [LawfulBEq κ] in
theorem contains_eq_false_iff {t : Table κ α} {k : κ} : t.contains k = false ↔ t.get? k = none := by
  simp [contains]

theorem pairs_add (t : Table κ α) (k : κ) (x : α) :
    (t.add k x).pairs = if t.contains k then t.pairs else t.pairs ++ [(k, x)] := by
  rw [add]
  split <;> rfl

@[simp, grind =]
theorem get?_add (t : Table κ α) (k : κ) (x : α) (k' : κ) :
    (t.add k x).get? k' = (t.get? k').or ([(k, x)].lookup k') := by
  by_cases h : t.contains k = true
  · have hsame : t.add k x = t := dif_pos h
    obtain ⟨y, hy⟩ := Option.isSome_iff_exists.mp h
    by_cases hk : k' = k
    · rw [hsame, hk, hy, Option.some_or]
    · have hne : (k' == k) = false := by simpa using hk
      rw [hsame, List.lookup_cons, hne, List.lookup_nil]
      exact Option.or_none.symm
  · rw [get?, pairs_add, if_neg h, List.lookup_append]
    rfl

end Table

/-! ## Keys in order -/

namespace Ascending

variable {α : Type} {low : Option (List Char)}

@[simp]
theorem mem_toList {m : Ascending α low} {p : List Char × α} : p ∈ m.toList ↔ p ∈ m := Iff.rfl

@[simp]
theorem mem_nil {p : List Char × α} : ¬ p ∈ (nil : Ascending α low) := List.not_mem_nil

@[simp, grind =]
theorem mem_cons {k : List Char} {h : ∀ l ∈ low, l < k} {x : α} {m : Ascending α (some k)} {p : List Char × α} :
    p ∈ cons k h x m ↔ p = (k, x) ∨ p ∈ m :=
  List.mem_cons

theorem get?_eq_some_iff {m : Ascending α low} {k : List Char} {x : α} : m.get? k = some x ↔ (k, x) ∈ m :=
  Table.lookup_eq_some_iff m.keys_nodup

theorem pairwise_toList (m : Ascending α low) : m.toList.Pairwise fun p q => p.1 < q.1 :=
  List.pairwise_map.mp m.keys_increasing

@[simp, grind =]
theorem get?_nil (k : List Char) : (nil : Ascending α low).get? k = none := rfl

@[simp, grind =]
theorem get?_cons (k' : List Char) (h : ∀ l ∈ low, l < k') (y : α) (m : Ascending α (some k')) (k : List Char) :
    (cons k' h y m).get? k = if k = k' then some y else m.get? k := by
  by_cases hk : k = k'
  · simp [get?, toList, hk]
  · have hb : (k == k') = false := by simpa using hk
    simp [get?, toList, List.lookup_cons, hb, hk]

@[simp, grind =]
theorem get?_put (k' : List Char) (x : α) (m : Ascending α low) (h : ∀ l ∈ low, l < k') (k : List Char) :
    (m.put k' x h).get? k = if k = k' then some x else m.get? k := by
  induction m with
  | nil => simp only [put, get?_cons, get?_nil]
  | cons k'' h' y m ih =>
    rw [put]
    split
    · simp only [get?_cons]
    split
    next heq =>
      subst heq
      rw [get?_cons, get?_cons]
      split <;> rfl
    next hne =>
      rw [get?_cons, get?_cons, ih]
      split
      next hk => rw [if_neg (fun h => hne (h.symm.trans hk))]
      next => rfl

theorem toList_injective {m m' : Ascending α low} (h : m.toList = m'.toList) : m = m' := by
  induction m with
  | nil =>
    cases m' with
    | nil => rfl
    | cons => cases h
  | cons k _ x m ih =>
    cases m' with
    | nil => cases h
    | cons k' _ x' m' =>
      simp only [toList, List.cons.injEq, Prod.mk.injEq] at h
      obtain ⟨⟨rfl, rfl⟩, hrest⟩ := h
      rw [ih hrest]

/-- A map in order is determined by what is found in it. -/
theorem ext_get? {m m' : Ascending α low} (h : ∀ k, m.get? k = m'.get? k) : m = m' := by
  have hnodup (n : Ascending α low) : n.toList.Nodup := n.keys_nodup.of_map _
  have hmem (p : List Char × α) : p ∈ m.toList ↔ p ∈ m'.toList := by
    rw [mem_toList, mem_toList, ← get?_eq_some_iff, ← get?_eq_some_iff, h]
  refine toList_injective (((List.perm_ext_iff_of_nodup (hnodup m) (hnodup m')).mpr hmem).eq_of_pairwise ?_
    m.pairwise_toList m'.pairwise_toList)
  intro p q _ _ hpq hqp
  exact absurd (List.lt_trans hpq hqp) (List.lt_irrefl _)

end Ascending

/-! ## What a map of pairs holds -/

namespace Keyed

variable {α : Type}

/-- A map that holds what pairs say, where of several pairs with one key the last counts. -/
def Collects (m : Keyed α) (pairs : List (List Char × α)) : Prop :=
  ∀ k, m.get? k = pairs.reverse.lookup k

theorem get?_foldl_put (k : List Char) : ∀ (pairs : List (List Char × α)) (m : Keyed α),
    (pairs.foldl (fun m (k, x) => m.put k x (by simp)) m).get? k = (pairs.reverse.lookup k).or (m.get? k)
  | [], m => by simp
  | (k', x) :: pairs, m => by
    have hlast : List.lookup k [(k', x)] = if k = k' then some x else none := by
      by_cases hk : k = k'
      · simp [hk]
      · simp [List.lookup_cons, beq_false_of_ne hk, hk]
    rw [List.foldl_cons, get?_foldl_put k pairs, Ascending.get?_put, List.reverse_cons, List.lookup_append,
      Option.or_assoc, hlast]
    split <;> simp

theorem collects_iff {m : Keyed α} {pairs : List (List Char × α)} : m.Collects pairs ↔ m = ofPairs pairs := by
  have hget (k : List Char) : (ofPairs pairs).get? k = pairs.reverse.lookup k := by
    rw [ofPairs, get?_foldl_put, Ascending.get?_nil, Option.or_none]
  constructor
  · intro h
    exact Ascending.ext_get? fun k => by rw [h, hget]
  · rintro rfl
    exact hget

theorem collects_toList (m : Keyed α) : Collects m m.toList :=
  Table.lookup_perm m.keys_nodup m.toList.reverse_perm.symm

theorem Collects.get?_eq_some_iff {m : Keyed α} {t : Table (List Char) α} (h : m.Collects t.pairs)
    {k : List Char} {x : α} : m.get? k = some x ↔ (k, x) ∈ t.pairs := by
  rw [h, ← Table.lookup_perm t.distinct t.pairs.reverse_perm.symm, Table.lookup_eq_some_iff t.distinct]

end Keyed

end ShardSearch
