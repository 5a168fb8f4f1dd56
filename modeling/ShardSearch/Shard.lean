/-
Shards: what a bucket's resource publishes.

A letter's shard is the tree of the rest of its keywords. The shard of all other keywords is an
object with one tree per leading character.
-/
import ShardSearch.Bucket
import ShardSearch.Tree.Decode

namespace ShardSearch

/-- The contents of a shard. -/
inductive Shard where
  /-- The tree of one letter. -/
  | single (t : Tree)
  /-- One tree per key. -/
  | merged (trees : Table (List Char) Tree)

namespace Shard

/-- The shard that a bucket's resource publishes. -/
def decode (b : Bucket) (body : String) : Except Json.Fault Shard :=
  match b with
  | .letter _ => (Tree.decode body).map .single
  | .other => (Tree.decodeMap body).map fun trees => .merged trees.toTable

/-- The character of a key that has exactly one. -/
def leading? : List Char → Option Char
  | [c] => some c
  | _ => none

/-- The trees of a merged shard that a query can reach: those under a key of one character. -/
def reachable (trees : List (List Char × Tree)) : List (Char × Tree) :=
  trees.filterMap fun (k, t) => (leading? k).map fun c => (c, t)

/-- The trees of a shard by leading character. -/
def trees (s : Shard) (b : Bucket) : List (Char × Tree) :=
  match s, b with
  | .single t, .letter c => [(c, t)]
  | .single _, .other => []
  | .merged trees, _ => reachable trees.pairs

/-- The keys of a shard that no query can reach. -/
def skippedKeys : Shard → List (List Char)
  | .single _ => []
  | .merged trees => (trees.pairs.map Prod.fst).filter fun k => (leading? k).isNone

end Shard

end ShardSearch
