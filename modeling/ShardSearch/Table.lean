/-
Tables: pairs of a key and a value with every key once, in no order that means anything.

A pair that is added under a key that is there is dropped, so the value that came first stays.
-/
namespace ShardSearch

/-- Pairs with distinct keys. -/
@[ext]
structure Table (κ α : Type) where
  pairs : List (κ × α)
  distinct : (pairs.map Prod.fst).Nodup

namespace Table

variable {κ α : Type} [BEq κ] [LawfulBEq κ]

/-- The table without pairs. -/
def empty : Table κ α := ⟨[], by simp⟩

/-- The value under a key. -/
def get? (t : Table κ α) (key : κ) : Option α := t.pairs.lookup key

/-- Whether there is a value under a key. -/
def contains (t : Table κ α) (key : κ) : Bool := (t.get? key).isSome

theorem contains_iff_mem {t : Table κ α} {key : κ} :
    t.contains key = true ↔ key ∈ t.pairs.map Prod.fst := by
  simp only [contains, get?, List.lookup_isSome_iff, beq_iff_eq, List.mem_map]
  exact ⟨fun ⟨p, hp, h⟩ => ⟨p, hp, h.symm⟩, fun ⟨p, hp, h⟩ => ⟨p, hp, h.symm⟩⟩

theorem nodup_append_pair {t : Table κ α} {key : κ} (h : ¬ t.contains key = true) (x : α) :
    ((t.pairs ++ [(key, x)]).map Prod.fst).Nodup := by
  rw [List.map_append, List.nodup_append]
  refine ⟨t.distinct, by simp, fun k hk k' hk' heq => ?_⟩
  rw [heq, List.mem_singleton.mp hk'] at hk
  exact h (contains_iff_mem.mpr hk)

/-- Adds a pair unless its key is there. -/
def add (t : Table κ α) (key : κ) (x : α) : Table κ α :=
  if h : t.contains key then t else ⟨t.pairs ++ [(key, x)], nodup_append_pair h x⟩

end Table

end ShardSearch
