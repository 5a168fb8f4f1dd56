/-
The grammar of TOML: values, then a document line by line.
-/
import ShardSearch.Toml.Document
import ShardSearch.Toml.Scan

namespace ShardSearch.Toml

/-- Reads a number or a date. What is left after the longest form that fits is for the caller to
refuse. -/
def numeric (s : List Char) : Option (Value × List Char) :=
  ((moment s).map fun rest => (Value.moment, rest)).or
    (((float s).map fun rest => (Value.float, rest)).or
      ((integer s).map fun (n, rest) => (.integer n, rest)))

/-- Reads the elements of an array up to its closing bracket. Lines may end anywhere between them,
and a comma may follow the last one. -/
def elementsIn (item : Reader Value) : (rounds : Nat) → Reader (List Value)
  | 0, _ => none
  | rounds + 1, s =>
    match skipLines s with
    | ']' :: rest => some ([], rest)
    | s =>
      match item s with
      | none => none
      | some (v, rest) =>
        match skipLines rest with
        | ']' :: rest => some ([v], rest)
        | ',' :: rest =>
          (elementsIn item rounds rest).map fun (vs, rest) => (v :: vs, rest)
        | _ => none

/-- Reads a key, an equals sign and a value. -/
def keyValue (item : Reader Value) (s : List Char) : Option ((Key × Value) × List Char) :=
  match key s with
  | some (k, '=' :: rest) => (item (skipBlanks rest)).map fun (v, rest) => ((k, v), rest)
  | _ => none

/-- Reads the members of an inline table that is not empty up to its closing brace, into the
members read before. -/
def inlineIn (item : Reader Value) :
    (rounds : Nat) → List (List Char × Value) → Reader (List (List Char × Value))
  | 0, _, _ => none
  | rounds + 1, ms, s =>
    match keyValue item s with
    | none => none
    | some ((k, v), rest) =>
      match addInline v k ms with
      | none => none
      | some ms =>
        match skipBlanks rest with
        | '\x7d' :: rest => some (ms, rest)
        | ',' :: rest => inlineIn item rounds ms rest
        | _ => none

/-- Reads the members of an inline table after its opening brace. -/
def inlineMembers (item : Reader Value) (s : List Char) :
    Option (List (List Char × Value) × List Char) :=
  match skipBlanks s with
  | '\x7d' :: rest => some ([], rest)
  | s => inlineIn item (s.length + 1) [] s

/-- Reads a value that is neither an array nor an inline table. -/
def simple : Reader Value
  | [] => none
  | c :: rest =>
    let s := c :: rest
    if c = '"' ∨ c = '\'' then (string s).map fun (t, rest) => (.string t, rest)
    else if c = 't' then (word ['t', 'r', 'u', 'e'] s).map fun rest => (.boolean true, rest)
    else if c = 'f' then (word ['f', 'a', 'l', 's', 'e'] s).map fun rest => (.boolean false, rest)
    else if c = 'i' ∨ c = 'n' then (special s).map fun rest => (.float, rest)
    else if c = '+' ∨ c = '-' ∨ c.isDigit then numeric s
    else none

/-- Reads a value in which at most `depth` arrays and inline tables may be open at once. -/
def value : (depth : Nat) → Reader Value
  | _, [] => none
  | 0, c :: rest => if c = '[' ∨ c = '\x7b' then none else simple (c :: rest)
  | depth + 1, c :: rest =>
    if c = '[' then
      (elementsIn (value depth) (rest.length + 1) rest).map fun (vs, rest) => (.array vs, rest)
    else if c = '\x7b' then
      (inlineMembers (value depth) rest).map fun (ms, rest) => (.inline false ms, rest)
    else simple (c :: rest)

/-- The number of arrays and inline tables that may be open at once. -/
def depthLimit : Nat := 79

/-- A document that is being read: its items and the header that is open. -/
structure Draft where
  root : Table
  header : Key

/-- Reads a header after its opening bracket. -/
def header (draft : Draft) : Reader Draft
  | '[' :: rest =>
    match key rest with
    | some (k, ']' :: ']' :: rest) =>
      (lineEnd? rest).bind fun rest => (draft.root.openElement k).map fun t => (⟨t, k⟩, rest)
    | _ => none
  | s =>
    match key s with
    | some (k, ']' :: rest) =>
      (lineEnd? rest).bind fun rest => (draft.root.openTable k).map fun t => (⟨t, k⟩, rest)
    | _ => none

/-- Reads one line: a header, a key with its value, or nothing. -/
def line (draft : Draft) (s : List Char) : Option (Draft × List Char) :=
  match skipBlanks s with
  | [] => some (draft, [])
  | c :: rest =>
    if c = '[' then header draft rest
    else if c = '#' ∨ c = '\n' ∨ c = '\r' then (lineEnd? (c :: rest)).map fun rest => (draft, rest)
    else
      match keyValue (value depthLimit) (c :: rest) with
      | none => none
      | some ((k, v), rest) =>
        (lineEnd? rest).bind fun rest =>
          (draft.root.addValue draft.header k v).map fun t => (⟨t, draft.header⟩, rest)

/-- Reads lines to the end of the text, in at most `rounds` rounds. -/
def linesIn : (rounds : Nat) → Draft → List Char → Option Table
  | _, draft, [] => some draft.root
  | 0, _, _ => none
  | rounds + 1, draft, s => (line draft s).bind fun (draft, rest) => linesIn rounds draft rest

/-- A text without the byte order mark at its front. -/
def skipMark : List Char → List Char
  | '\ufeff' :: rest => rest
  | s => s

/-- The document of a text, if it is one. -/
def parse? (s : String) : Option Table :=
  let cs := skipMark s.toList
  linesIn (cs.length + 1) ⟨[], []⟩ cs

end ShardSearch.Toml
