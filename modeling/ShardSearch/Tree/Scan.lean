/-
The walk of a needle as a scan over its bytes.

The scan keeps a table of the byte offsets at which characters start and two indices into it: the
window reaches from the character behind the last descent to the one just read. Each round cuts
the window out of the needle and looks for a child under it. A cut can fail, if an offset lies
inside a character or past the end, and a scan with such a cut has no outcome at all.
-/
import ShardSearch.Text.Search
import ShardSearch.Tree.Walk

namespace ShardSearch.Tree

/-- Where a scan stands. -/
structure Cursor where
  /-- The node reached. -/
  node : Tree
  /-- The index of the first character of the window. -/
  anchor : Nat

/-- One round: the character with index `last` joins the window. Absent if the window cannot be cut
out of the needle. -/
def scanRound (needle : List Char) (bounds : List Nat) (cur : Cursor) (last : Nat) : Option Cursor :=
  (bounds[cur.anchor]?).bind fun start =>
    (bounds[last + 1]?).bind fun stop =>
      (Text.slice? start stop needle).map fun window =>
        match cur.node.child? window with
        | some child => ⟨child, last + 1⟩
        | none => cur

/-- The documents that a needle leads to, by rounds over its characters. The inner option is the
answer, and the outer one is absent if a window cannot be cut. -/
def scan? (t : Tree) (needle : List Char) : Option (Option Matches) :=
  let bounds := Text.boundaries needle
  let length := bounds.length - 1
  ((List.range length).foldlM (scanRound needle bounds) ⟨t, 0⟩).map fun cur =>
    if cur.anchor = length then some cur.node.matched else none

end ShardSearch.Tree
