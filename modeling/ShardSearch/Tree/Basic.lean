/-
Compressed prefix trees.

A node has children under labels of one or more characters, and, where indexed keywords end, the
identifiers of the documents that contain them. The keyword of a node is the concatenation of
the labels on the way to it.
-/
import ShardSearch.Document
import ShardSearch.Keyed

namespace ShardSearch

/-- A node and everything under it. Children are in the order of their labels; `ids` is absent at
a node where no keyword ends. -/
inductive Tree where
  | node (children : Ascending Tree none) (ids : Option (List DocumentId))

namespace Tree

/-- The children of a node, in the order of their labels. -/
def children : Tree → Keyed Tree
  | .node children _ => children

/-- The identifiers at a node, absent where no keyword ends. -/
def ids? : Tree → Option (List DocumentId)
  | .node _ ids => ids

/-- The identifiers at a node, none where no keyword ends. -/
def ids (t : Tree) : List DocumentId := t.ids?.getD []

/-- Whether a keyword ends at a node. -/
def isTerminal (t : Tree) : Bool := t.ids?.isSome

/-- The node without children and keywords. -/
def leaf : Tree := .node .nil none

instance : Inhabited Tree := ⟨leaf⟩

/-- The node with children given in any order; of two under one label the later stays. -/
def ofChildren (children : List (List Char × Tree)) (ids : Option (List DocumentId)) : Tree :=
  .node (Keyed.ofPairs children) ids

/-- The child under a label. -/
def child? (t : Tree) (label : List Char) : Option Tree := t.children.get? label

mutual

/-- The identifiers of all nodes strictly below a node: each child's own before those below it,
children in the order of their labels. -/
def descendantIds : Tree → List DocumentId
  | .node children _ => idsWithin children

/-- The identifiers at and below children. -/
def idsWithin {low : Option (List Char)} : Ascending Tree low → List DocumentId
  | .nil => []
  | .cons _ _ t rest => t.ids ++ t.descendantIds ++ idsWithin rest

end

end Tree

end ShardSearch
