/-
Prefix trees from their published form.

A node is an array of one or two elements: the object of its children, and the array of its
identifiers where keywords end. An identifier is a string or an integer without a sign; the
token of an integer is its decimal numeral. The reader goes through the text once, and the first
thing wrong in the order of the text decides the fault.
-/
import ShardSearch.Json.Skip
import ShardSearch.Json.Value
import ShardSearch.Tree.Basic

namespace ShardSearch.Tree

open Json

/-- The identifier that a value stands for. -/
def identifier? : Value → Option DocumentId
  | .scalar (.number (.natural n)) => some (.ofOrdinal n)
  | .scalar (.string s) => some ⟨String.ofList s⟩
  | _ => none

/-- Reads an identifier. The value is read to its end before it is judged. -/
def readId (depth : Nat) : Reader DocumentId := fun s =>
  match value depth s with
  | .error f => .error f
  | .ok (v, rest) =>
    match identifier? v with
    | some id => .ok (id, rest)
    | none => .error (.mismatch .identifier)

/-- Reads the array of identifiers of a node. -/
def readIds : (depth : Nat) → Reader (List DocumentId) :=
  array .sequence fun depth => elements (readId depth)

/-- Reads an object of nodes with a reader for a node; of several values under one key the last
stays. -/
def readNodes (read : Nat → Reader Tree) : (depth : Nat) → Reader (Keyed Tree) :=
  object .children fun depth s =>
    match members Json.string (read depth) s with
    | .error f => .error f
    | .ok (ms, rest) => .ok (Keyed.ofPairs ms, rest)

/-- Reads what follows the children of a node: identifiers or the end, and nothing else. -/
def readTail (children : Keyed Tree) (depth : Nat) : Reader Tree := fun s =>
  match nextElement false s with
  | .error f => .error f
  | .ok (.closed rest) => .ok (.node children none, rest)
  | .ok (.item s) =>
    match readIds depth s with
    | .error f => .error f
    | .ok (ids, s) =>
      match nextElement false s with
      | .error f => .error f
      | .ok (.closed rest) => .ok (.node children (some ids), rest)
      | .ok (.item s) =>
        match skip s with
        | .error f => .error f
        | .ok _ => .error (.mismatch (.length 3 .node))

/-- Reads a node after its opening bracket, with a reader for its children. -/
def readBody (readChildren : Nat → Reader (Keyed Tree)) (depth : Nat) : Reader Tree := fun s =>
  match nextElement true s with
  | .error f => .error f
  | .ok (.closed _) => .error (.mismatch (.length 0 .node))
  | .ok (.item s) =>
    match readChildren depth s with
    | .error f => .error f
    | .ok (children, s) => readTail children depth s

/-- Reads a node in at most `levels` levels of nodes. A node takes two containers, so the number of
containers that may be open is a sufficient number of levels. -/
def readIn : (levels : Nat) → (depth : Nat) → Reader Tree
  | 0, _, _ => .error .malformed
  | levels + 1, depth, s => array .node (readBody (readNodes (readIn levels))) depth s

/-- Reads a node. -/
def read (depth : Nat) : Reader Tree := readIn (depth + 1) depth

/-- Reads an object of nodes. -/
def readMap (depth : Nat) : Reader (Keyed Tree) := readNodes read depth

/-- The tree that a text publishes. -/
def decode (s : String) : Except Fault Tree := Json.decode read s

/-- The trees that a text publishes by key. -/
def decodeMap (s : String) : Except Fault (Keyed Tree) := Json.decode readMap s

end ShardSearch.Tree
