/-
Walking a needle down a prefix tree.

The walk reads the needle one character at a time into a window and descends as soon as the
window is the label of a child, which empties the window. It succeeds if the window is empty in
the end, so a needle that ends inside a label leads nowhere.
-/
import ShardSearch.Tree.Basic

namespace ShardSearch

/-- The documents a needle leads to. -/
structure Matches where
  /-- Documents of the keyword itself, none where no keyword ends. -/
  exact : List DocumentId
  /-- Documents of longer keywords, with repetitions. -/
  longer : List DocumentId
deriving DecidableEq, Repr

namespace Matches

/-- How many documents are listed, repetitions included. -/
def size (m : Matches) : Nat := m.exact.length + m.longer.length

/-- Whether nothing is listed. -/
def isEmpty (m : Matches) : Bool := m.exact.isEmpty && m.longer.isEmpty

end Matches

namespace Tree

/-- What a needle that ends at a node matches. -/
def matched (t : Tree) : Matches := ⟨t.ids, t.descendantIds⟩

/-- Walks the rest of a needle, with the characters in `window` read since the last descent. -/
def walkFrom (t : Tree) (window : List Char) : List Char → Option Tree
  | [] => if window.isEmpty then some t else none
  | c :: rest =>
    match t.child? (window ++ [c]) with
    | some child => child.walkFrom [] rest
    | none => t.walkFrom (window ++ [c]) rest

/-- The node that a needle leads to. -/
def walk (t : Tree) (needle : List Char) : Option Tree := t.walkFrom [] needle

/-- The documents that a needle leads to; absent if it leads nowhere. -/
def find? (t : Tree) (needle : List Char) : Option Matches := (t.walk needle).map matched

end Tree

end ShardSearch
