/-
Buckets: the partition of keywords by leading character. Each bucket is published as one shard.
-/
namespace ShardSearch

/-- A part of the index that is published as one resource. -/
inductive Bucket where
  /-- The keywords that start with a letter. -/
  | letter (c : Char)
  /-- All keywords that start with anything but `a` to `z`. -/
  | other
deriving DecidableEq, Repr

namespace Bucket

/-- The bucket of the keywords with a leading character. -/
def ofChar (c : Char) : Bucket := if c.isLower then .letter c else .other

/-- The stem of the bucket's resource. -/
def name : Bucket → String
  | .letter c => String.singleton c
  | .other => "_"

/-- Whether a bucket holds the keywords of one letter. -/
def isLetter : Bucket → Bool
  | .letter _ => true
  | .other => false

end Bucket

end ShardSearch
