/-
Maps from texts to values, in strictly increasing order of their keys.

The order is part of the type: a pair can only be put in front of pairs with greater keys. Keys are
compared character by character in code point order, which is also the byte order of their UTF-8
forms. Putting a value under a key that is present replaces the value.
-/
import ShardSearch.Table

namespace ShardSearch

/-- Pairs of a key and a value in strictly increasing order of their keys, above a bound if there is
one. -/
inductive Ascending (α : Type) : Option (List Char) → Type
  | nil {low : Option (List Char)} : Ascending α low
  | cons {low : Option (List Char)} (key : List Char) (above : ∀ k ∈ low, k < key) (value : α)
      (rest : Ascending α (some key)) : Ascending α low

/-- Pairs of a key and a value, in the order of their keys. -/
abbrev Keyed (α : Type) := Ascending α none

namespace Ascending

variable {α : Type} {low : Option (List Char)}

/-- The pairs in their order. -/
def toList {low : Option (List Char)} : Ascending α low → List (List Char × α)
  | nil => []
  | cons key _ x rest => (key, x) :: rest.toList

instance : Membership (List Char × α) (Ascending α low) := ⟨fun m p => p ∈ m.toList⟩

/-- The keys in their order. -/
def keys (m : Ascending α low) : List (List Char) := m.toList.map Prod.fst

/-- The value under a key. -/
def get? (m : Ascending α low) (key : List Char) : Option α := m.toList.lookup key

/-- Puts a value under a key above the bound. -/
def put (key : List Char) (x : α) {low : Option (List Char)} :
    (m : Ascending α low) → (∀ k ∈ low, k < key) → Ascending α low
  | nil, above => cons key above x nil
  | cons k h y rest, above =>
    if hlt : key < k then cons key above x (cons k (by simpa using hlt) y rest)
    else if heq : key = k then cons k h x rest
    else cons k h y (rest.put key x (by
      have hle := List.le_iff_lt_or_eq.mp (List.not_lt.mp hlt)
      simpa using hle.resolve_right fun h => heq h.symm))

theorem above_of_mem {low : Option (List Char)} {k : List Char} {p : List Char × α} (hk : k ∈ low) :
    (m : Ascending α low) → p ∈ m.toList → k < p.1
  | cons key above x rest, hp => by
    rcases List.mem_cons.mp hp with rfl | hp
    · exact above k hk
    · exact List.lt_trans (above k hk) (above_of_mem rfl rest hp)

/-- The keys are strictly increasing. -/
theorem keys_increasing {low : Option (List Char)} : (m : Ascending α low) → m.keys.Pairwise (· < ·)
  | nil => .nil
  | cons key above x rest => by
    refine List.pairwise_cons.mpr ⟨fun k hk => ?_, rest.keys_increasing⟩
    obtain ⟨p, hp, rfl⟩ := List.mem_map.mp hk
    exact above_of_mem rfl rest hp

theorem keys_nodup (m : Ascending α low) : m.keys.Nodup := by
  refine m.keys_increasing.imp fun {a b} hab => ?_
  rintro rfl
  exact List.lt_irrefl _ hab

/-- The same pairs, in an order that does not count. -/
def toTable (m : Ascending α low) : Table (List Char) α := ⟨m.toList, m.keys_nodup⟩

end Ascending

/-- The map of pairs given in any order; of several values under one key the last stays. -/
def Keyed.ofPairs {α : Type} (pairs : List (List Char × α)) : Keyed α :=
  pairs.foldl (fun m (k, x) => m.put k x (by simp)) .nil

end ShardSearch
