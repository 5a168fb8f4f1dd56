/-
Texts that publish prefix trees.

A node is written as the array of its children and, where keywords end, its identifiers. An
identifier may be written as a string always, and as an integer where its token is the numeral of
one, so a tree has many texts: which form each identifier gets is up to the writer.
-/
import ShardSearch.Json.Printer
import ShardSearch.Tree.Basic

namespace ShardSearch

/-- The number of 64 bits whose numeral a token is, without a sign and without leading zeros. -/
def DocumentId.numeral? (id : DocumentId) : Option Nat :=
  id.ordinal?.filter fun n => ofOrdinal n = id

namespace Tree

open Json

/-- Which identifiers are written as integers where they can be. The place of an identifier is the
positions of the children on the way to its node and then its own position there. -/
abbrev IdForms := List Nat → Bool

/-- The forms inside the child at a position. -/
def IdForms.inside (forms : IdForms) (position : Nat) : IdForms := fun place => forms (position :: place)

/-- The value of an identifier in one of its forms. -/
def idValue (asInteger : Bool) (id : DocumentId) : Value :=
  match asInteger, id.numeral? with
  | true, some n => .scalar (.number (.natural n))
  | _, _ => .string id.token

/-- The value of the identifiers at a node. -/
def idValues (forms : IdForms) (ids : List DocumentId) : Value :=
  .array (ids.mapIdx fun position id => idValue (forms [position]) id)

mutual

/-- The value that publishes a tree. -/
def toValue (forms : IdForms) : Tree → Value
  | .node children ids => .array (.object (toMembers forms 0 children) :: (ids.map (idValues forms)).toList)

/-- The members that publish the children of a node, from a position on. -/
def toMembers (forms : IdForms) (position : Nat) {low : Option (List Char)} :
    Ascending Tree low → List (List Char × Value)
  | .nil => []
  | .cons k _ t rest => (k, t.toValue (forms.inside position)) :: toMembers forms (position + 1) rest

end

/-- A text that publishes a tree. -/
def encode (forms : IdForms) (layout : Layout) (t : Tree) : String := print layout (t.toValue forms)

/-- The members that publish trees under their keys, in the order given. -/
def mapMembers (forms : IdForms) (trees : List (List Char × Tree)) : List (List Char × Value) :=
  trees.mapIdx fun position p => (p.1, p.2.toValue (forms.inside position))

/-- A text that publishes trees by key, in the order given. -/
def encodeMap (forms : IdForms) (layout : Layout) (trees : List (List Char × Tree)) : String :=
  print layout (.object (mapMembers forms trees))

end Tree

end ShardSearch
