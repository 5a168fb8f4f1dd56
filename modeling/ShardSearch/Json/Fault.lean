/-
Why a JSON text is refused.

A text is malformed, or it ends too early, or it is well formed so far and a value has the wrong
shape. Only the last kind carries a message, which names what was found and what was expected.
-/
import ShardSearch.Json.Number
import ShardSearch.Text.Quoted

namespace ShardSearch.Json

/-- A value that holds no other values. -/
inductive Scalar where
  | null
  | boolean (b : Bool)
  | number (n : Number)
  | string (s : List Char)
deriving DecidableEq, Repr

/-- What was found where something else was expected. -/
inductive Found where
  | scalar (x : Scalar)
  | array
  | object
deriving DecidableEq, Repr

/-- What a reader expects. -/
inductive Expected where
  | node
  | children
  | sequence
  | pair
  | string
deriving DecidableEq, Repr

/-- How a value misses the expected shape. -/
inductive Mismatch where
  /-- A value of another kind. -/
  | kind (found : Found) (expected : Expected)
  /-- An array of the wrong length. -/
  | length (n : Nat) (expected : Expected)
  /-- An identifier that is neither an integer without a sign nor a string. -/
  | identifier
deriving DecidableEq, Repr

/-- Why reading stopped. -/
inductive Fault where
  /-- The text is no JSON. -/
  | malformed
  /-- The text ends inside the value. -/
  | truncated
  /-- The value has the wrong shape. -/
  | mismatch (m : Mismatch)
deriving DecidableEq, Repr

/-- How a message names what was found. -/
def Found.described : Found → String
  | .scalar .null => "null"
  | .scalar (.boolean b) => "boolean `" ++ (if b then "true" else "false") ++ "`"
  | .scalar (.number n) => n.described
  | .scalar (.string s) => "string " ++ Text.quoted s
  | .array => "sequence"
  | .object => "map"

/-- How a message names what was expected. -/
def Expected.described : Expected → String
  | .node => "a [children] or [children, ids] array"
  | .children => "a map"
  | .sequence => "a sequence"
  | .pair => "a tuple of size 2"
  | .string => "a string"

/-- The message of a mismatch. -/
def Mismatch.message : Mismatch → String
  | .kind found expected =>
    "invalid type: " ++ found.described ++ ", expected " ++ expected.described
  | .length n expected =>
    "invalid length " ++ toString n ++ ", expected " ++ expected.described
  | .identifier => "data did not match any variant of untagged enum RawDocumentId"

/-- The category of a fault. -/
def Fault.category : Fault → String
  | .malformed => "syntax"
  | .truncated => "eof"
  | .mismatch _ => "data"

/-- The message of a fault, without the place in the text. That of a text which is no JSON, or breaks
off, is left open. -/
def Fault.message? : Fault → Option String
  | .mismatch m => some m.message
  | .malformed | .truncated => none

/-- What a message that ends with its cause says of a fault. -/
def Fault.asCause (f : Fault) : String := (f.message?.map (": " ++ ·)).getD ""

end ShardSearch.Json
