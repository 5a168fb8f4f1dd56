/-
The store of loaded trees, by leading character.

The store only grows. A tree that is present stays, whatever is given for its character later,
and a bucket that was stored is remembered even if it held no tree.
-/
import ShardSearch.Bucket
import ShardSearch.Tree.Basic

namespace ShardSearch

/-- The trees loaded so far, one per character and in the order of their arrival, and the buckets they
came from. -/
@[ext]
structure Store where
  trees : Table Char Tree
  fetched : List Bucket

namespace Store

/-- The store that holds nothing. -/
def empty : Store := ⟨.empty, []⟩

/-- The tree of a leading character. -/
def get? (s : Store) (first : Char) : Option Tree := s.trees.get? first

/-- Whether there is a tree for a leading character. -/
def contains (s : Store) (first : Char) : Bool := s.trees.contains first

/-- Whether a bucket was stored. -/
def isFetched (s : Store) (b : Bucket) : Bool := s.fetched.contains b

/-- Adds a tree unless its character has one. -/
def add (s : Store) (first : Char) (t : Tree) : Store := { s with trees := s.trees.add first t }

/-- Adds trees one after another. -/
def addAll (s : Store) (trees : List (Char × Tree)) : Store :=
  trees.foldl (fun s (c, t) => s.add c t) s

/-- The number of trees. -/
def size (s : Store) : Nat := s.trees.pairs.length

/-- Whether there is no tree. -/
def isEmpty (s : Store) : Bool := s.size = 0

/-- Remembers that a bucket was stored. -/
def markFetched (s : Store) (b : Bucket) : Store :=
  if s.isFetched b then s else { s with fetched := s.fetched ++ [b] }

/-- Stores the trees of a bucket. Returns how many were added. -/
def insertBucket (s : Store) (b : Bucket) (trees : List (Char × Tree)) : Store × Nat :=
  let s' := s.addAll trees
  (s'.markFetched b, s'.size - s.size)

/-- The leading characters with a tree, in code point order. -/
def keys (s : Store) : List Char := (s.trees.pairs.map Prod.fst).mergeSort (· ≤ ·)

end Store

end ShardSearch
