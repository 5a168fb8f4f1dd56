/-
JSON syntax trees and their reader.

An object keeps its members in the order of the text, repeated keys included, so a syntax tree
says everything about a text but its blanks and the spelling of its strings and numbers.
-/
import ShardSearch.Json.Container

namespace ShardSearch.Json

/-- A JSON value as it was written. -/
inductive Value where
  | scalar (x : Scalar)
  | array (items : List Value)
  | object (members : List (List Char × Value))
deriving Repr

namespace Value

/-- A string value. -/
def string (s : String) : Value := .scalar (.string s.toList)

/-- A truth value. -/
def boolean (b : Bool) : Value := .scalar (.boolean b)

/-- An object with keys given as strings. -/
def ofFields (fields : List (String × Value)) : Value :=
  .object (fields.map fun (k, v) => (k.toList, v))

end Value

/-- Reads a value in which at most `depth` containers may be open at once. -/
def value : (depth : Nat) → Reader Value
  | 0, s =>
    match skipBlanks s with
    | '[' :: _ => .error .malformed
    | '\x7b' :: _ => .error .malformed
    | s =>
      match scalar s with
      | .error f => .error f
      | .ok (x, rest) => .ok (.scalar x, rest)
  | depth + 1, s =>
    match skipBlanks s with
    | '[' :: rest =>
      match elements (value depth) rest with
      | .error f => .error f
      | .ok (xs, rest) => .ok (.array xs, rest)
    | '\x7b' :: rest =>
      match members Json.string (value depth) rest with
      | .error f => .error f
      | .ok (ms, rest) => .ok (.object ms, rest)
    | s =>
      match scalar s with
      | .error f => .error f
      | .ok (x, rest) => .ok (.scalar x, rest)

/-- Reads a text as one value. -/
def parse (s : String) : Except Fault Value := decode value s

end ShardSearch.Json
