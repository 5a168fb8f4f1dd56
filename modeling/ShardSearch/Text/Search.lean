/-
Finding a text in another one, and cutting a text into lines and at byte offsets.

Occurrences are the leftmost ones that do not overlap, and their places are counted in the bytes
of the UTF-8 form.
-/
namespace ShardSearch.Text

/-- The number of bytes of a text. -/
def width : List Char → Nat
  | [] => 0
  | c :: rest => c.utf8Size + width rest

/-- Whether `needle` occurs in a text; the empty needle occurs everywhere. -/
def occursIn (needle : List Char) : List Char → Bool
  | [] => needle.isEmpty
  | c :: rest => needle.isPrefixOf (c :: rest) || occursIn needle rest

/-- The byte offsets of the occurrences of a needle in a text that starts at byte `offset`.
The first `skip` characters belong to an occurrence already found. -/
def occurrencesFrom (needle : List Char) (skip offset : Nat) : List Char → List Nat
  | [] => []
  | c :: rest =>
    let next := offset + c.utf8Size
    match skip with
    | n + 1 => occurrencesFrom needle n next rest
    | 0 =>
      if needle.isPrefixOf (c :: rest) then
        offset :: occurrencesFrom needle (needle.length - 1) next rest
      else occurrencesFrom needle 0 next rest

/-- The byte offsets of the leftmost occurrences of a non-empty needle that do not overlap. -/
def occurrences (needle text : List Char) : List Nat := occurrencesFrom needle 0 0 text

/-- Cuts a text at a byte offset; absent if the offset lies inside a character or past the
end. -/
def cutAt? : Nat → List Char → Option (List Char × List Char)
  | 0, s => some ([], s)
  | _ + 1, [] => none
  | n + 1, c :: rest =>
    if c.utf8Size ≤ n + 1 then (cutAt? (n + 1 - c.utf8Size) rest).map fun (a, b) => (c :: a, b)
    else none

/-- The part of a text between two byte offsets; absent if one of them lies inside a character or
past the end, or if they are in the wrong order. -/
def slice? (start stop : Nat) (s : List Char) : Option (List Char) :=
  if start ≤ stop then
    (cutAt? stop s).bind fun (front, _) => (cutAt? start front).map fun (_, part) => part
  else none

/-- The byte offsets of the characters of a text that starts at byte `offset`, and of its end. -/
def boundariesFrom (offset : Nat) : List Char → List Nat
  | [] => [offset]
  | c :: rest => offset :: boundariesFrom (offset + c.utf8Size) rest

/-- The byte offsets of the characters of a text, and of its end. -/
def boundaries (s : List Char) : List Nat := boundariesFrom 0 s

/-- A line read backwards, without the carriage return at its end. -/
def withoutReturn : List Char → List Char
  | '\r' :: rest => rest
  | s => s

/-- The lines of a text of which the current line's part `sofar` has been read, in reverse. -/
def linesFrom (sofar : List Char) : List Char → List (List Char)
  | [] => if sofar.isEmpty then [] else [sofar.reverse]
  | '\n' :: rest => (withoutReturn sofar).reverse :: linesFrom [] rest
  | c :: rest => linesFrom (c :: sofar) rest

/-- The lines of a text. A line ends with a newline or with a carriage return and a newline, and
the last one may lack its end. -/
def lines (s : List Char) : List (List Char) := linesFrom [] s

end ShardSearch.Text
