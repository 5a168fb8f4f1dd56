/-
Arrays and objects, read with a reader for what they hold.

`elements` and `members` take the reader of one item as a parameter, so the typed readers, the
reader of syntax trees and the skipping reader share the punctuation: commas between items, none
after the last, a colon after each key. Every round consumes at least the comma, so the length of
the text bounds the number of rounds.
-/
import ShardSearch.Json.Scan

namespace ShardSearch.Json

variable {α κ : Type}

/-- What comes next inside a container: its end, already read, or an item. -/
inductive Next where
  | closed (rest : List Char)
  | item (rest : List Char)

/-- Looks for the next element of an array: before the first one no comma is due. -/
def nextElement (isFirst : Bool) (s : List Char) : Except Fault Next :=
  match skipBlanks s with
  | [] => .error .truncated
  | c :: rest =>
    if c = ']' then .ok (.closed rest)
    else if isFirst then .ok (.item (c :: rest))
    else if c = ',' then
      match skipBlanks rest with
      | [] => .error .truncated
      | d :: rest => if d = ']' then .error .malformed else .ok (.item (d :: rest))
    else .error .malformed

/-- Reads the closing bracket of an array that may hold nothing more. -/
def closeArray (s : List Char) : Except Fault (List Char) :=
  match skipBlanks s with
  | [] => .error .truncated
  | c :: rest => if c = ']' then .ok rest else .error .malformed

/-- Looks for the next key of an object, up to and including its opening quote. -/
def nextKey (isFirst : Bool) (s : List Char) : Except Fault Next :=
  match skipBlanks s with
  | [] => .error .truncated
  | c :: rest =>
    if c = '\x7d' then .ok (.closed rest)
    else if isFirst then
      if c = '"' then .ok (.item rest) else .error .malformed
    else if c = ',' then
      match skipBlanks rest with
      | [] => .error .truncated
      | d :: rest => if d = '"' then .ok (.item rest) else .error .malformed
    else .error .malformed

/-- Reads the colon after a key. -/
def colon (s : List Char) : Except Fault (List Char) :=
  match skipBlanks s with
  | [] => .error .truncated
  | c :: rest => if c = ':' then .ok rest else .error .malformed

/-- Reads the items of a container up to its end, in at most `rounds` rounds. What `next` looks for is
all that arrays and objects differ in. -/
def itemsIn (next : Bool → List Char → Except Fault Next) (item : Reader α) :
    (rounds : Nat) → (isFirst : Bool) → Reader (List α)
  | 0, _, _ => .error .truncated
  | rounds + 1, isFirst, s =>
    match next isFirst s with
    | .error f => .error f
    | .ok (.closed rest) => .ok ([], rest)
    | .ok (.item s) =>
      match item s with
      | .error f => .error f
      | .ok (x, s) =>
        match itemsIn next item rounds false s with
        | .error f => .error f
        | .ok (xs, s) => .ok (x :: xs, s)

/-- Reads the elements of an array after its opening bracket. -/
def elements (item : Reader α) (s : List Char) : Except Fault (List α × List Char) :=
  itemsIn nextElement item (s.length + 1) true s

/-- Reads a key, its colon and its value. -/
def member (key : Reader κ) (item : Reader α) (s : List Char) :
    Except Fault ((κ × α) × List Char) :=
  match key s with
  | .error f => .error f
  | .ok (k, s) =>
    match colon s with
    | .error f => .error f
    | .ok s =>
      match item s with
      | .error f => .error f
      | .ok (x, s) => .ok ((k, x), s)

/-- Reads the members of an object after its opening brace, in the order of the text and with
repeated keys kept. -/
def members (key : Reader κ) (item : Reader α) (s : List Char) :
    Except Fault (List (κ × α) × List Char) :=
  itemsIn nextKey (member key item) (s.length + 1) true s

/-- The number of containers that may be open at once. -/
def depthLimit : Nat := 127

/-- The fault of a value that is not of the expected kind. A scalar is read to its end first; of
an array or an object only the opening bracket counts. -/
def unexpected (expected : Expected) (s : List Char) : Fault :=
  match s with
  | '[' :: _ => .mismatch (.kind .array expected)
  | '\x7b' :: _ => .mismatch (.kind .object expected)
  | s =>
    match scalar s with
    | .ok (x, _) => .mismatch (.kind (.scalar x) expected)
    | .error f => f

/-- Reads an array with a reader for what follows its opening bracket. The reader gets the number
of containers that may still be opened inside. -/
def array (expected : Expected) (body : Nat → Reader α) (depth : Nat) : Reader α := fun s =>
  match skipBlanks s with
  | '[' :: rest =>
    match depth with
    | 0 => .error .malformed
    | depth + 1 => body depth rest
  | s => .error (unexpected expected s)

/-- Reads an object with a reader for what follows its opening brace. -/
def object (expected : Expected) (body : Nat → Reader α) (depth : Nat) : Reader α := fun s =>
  match skipBlanks s with
  | '\x7b' :: rest =>
    match depth with
    | 0 => .error .malformed
    | depth + 1 => body depth rest
  | s => .error (unexpected expected s)

/-- Reads a string where one is expected. -/
def text (s : List Char) : Except Fault (List Char × List Char) :=
  match skipBlanks s with
  | '"' :: rest => string rest
  | s => .error (unexpected .string s)

/-- Reads a whole text as one value, with nothing but blanks after it. -/
def decode (read : Nat → Reader α) (s : String) : Except Fault α :=
  match read depthLimit s.toList with
  | .error f => .error f
  | .ok (x, rest) => if (skipBlanks rest).isEmpty then .ok x else .error .malformed

end ShardSearch.Json
