/-
TOML documents as they are built up: values, tables and who declared them.

A table remembers how it came to be, because that decides what may be added to it. A table of a
header is closed to dotted keys from elsewhere, a table of dotted keys is closed to headers, and
a table that is only the parent of a header may get its own header once. Inline tables are closed
by their brace.
-/
namespace ShardSearch.Toml

/-- A value. Of numbers with a fraction and of dates only the kind is kept. -/
inductive Value where
  | string (s : List Char)
  | integer (n : Int)
  | float
  | boolean (b : Bool)
  | moment
  | array (items : List Value)
  /-- An inline table; it is open while dotted keys inside the same braces may add to it. -/
  | inline (isOpen : Bool) (members : List (List Char × Value))
deriving Repr

/-- How a table was declared. -/
inductive Origin where
  /-- By a header of its own. -/
  | header
  /-- As a parent of a header. -/
  | parent
  /-- By dotted keys. -/
  | dotted
deriving DecidableEq, Repr

/-- What is declared under a key. -/
inductive Item where
  | value (v : Value)
  | table (origin : Origin) (items : List (List Char × Item))
  /-- An array of tables, by its latest table: the earlier ones can no longer change. -/
  | tables (latest : List (List Char × Item))
deriving Repr

/-- The items of a table. -/
abbrev Table := List (List Char × Item)

/-- A key, by its parts. -/
abbrev Key := List (List Char)

/-- Replaces what is under a key that is present. -/
def replace {α : Type} (k : List Char) (x : α) (t : List (List Char × α)) : List (List Char × α) :=
  t.map fun p => if p.1 = k then (k, x) else p

/-- Adds to a table under a new key. -/
def add {α : Type} (k : List Char) (x : α) (t : List (List Char × α)) :
    Option (List (List Char × α)) :=
  if (t.lookup k).isSome then none else some (t ++ [(k, x)])

/-- Adds a value to an inline table under a key that may be dotted. -/
def addInline (v : Value) : Key → List (List Char × Value) → Option (List (List Char × Value))
  | [], _ => none
  | [k], ms => add k v ms
  | k :: ks, ms =>
    match ms.lookup k with
    | none => (addInline v ks []).map fun sub => ms ++ [(k, .inline true sub)]
    | some (.inline true sub) => (addInline v ks sub).map fun sub => replace k (.inline true sub) ms
    | some _ => none

namespace Table

/-- Changes the table at a path. Tables that are missing on the way are created: by dotted keys if
`byDots`, else as parents. Dotted keys do not lead into a table with a header. -/
def change (byDots : Bool) (f : Origin → Table → Option Table) :
    (path : Key) → (origin : Origin) → Table → Option Table
  | [], origin, t => f origin t
  | k :: ks, _, t =>
    let created := if byDots then Origin.dotted else .parent
    match t.lookup k with
    | none => (change byDots f ks created []).map fun sub => t ++ [(k, .table created sub)]
    | some (.value _) => none
    | some (.tables latest) =>
      (change byDots f ks .header latest).map fun sub => replace k (.tables sub) t
    | some (.table origin sub) =>
      if byDots && origin = .header then none
      else (change byDots f ks origin sub).map fun sub => replace k (.table origin sub) t

/-- Splits a key into the path to a table and the name in it. -/
def split? : Key → Option (Key × List Char)
  | [] => none
  | k :: ks => some ((k :: ks).dropLast, (k :: ks).getLast?.getD k)

/-- Adds a value under a key to the table that a header opened. Dotted keys have to end in a table
of dotted keys. -/
def addValue (header key : Key) (v : Value) (root : Table) : Option Table :=
  (split? key).bind fun (path, name) =>
    root.change false (fun origin t =>
      t.change true (fun origin t =>
        if path.isEmpty || origin = .dotted then add name (.value v) t else none) path origin)
      header .header

/-- Opens a table by a header. -/
def openTable (header : Key) (root : Table) : Option Table :=
  (split? header).bind fun (path, name) =>
    root.change false (fun _ t =>
      match t.lookup name with
      | none => some (t ++ [(name, .table .header [])])
      | some (.table .parent sub) => some (replace name (.table .header sub) t)
      | some _ => none) path .header

/-- Opens a new table of an array of tables by a header. -/
def openElement (header : Key) (root : Table) : Option Table :=
  (split? header).bind fun (path, name) =>
    root.change false (fun _ t =>
      match t.lookup name with
      | none => some (t ++ [(name, .tables [])])
      | some (.tables _) => some (replace name (.tables []) t)
      | some _ => none) path .header

end Table

end ShardSearch.Toml
