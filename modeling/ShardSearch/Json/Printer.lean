/-
JSON text of a value: on one line, or with one item a line and two spaces of indentation a
level. An empty array or object is closed on the spot in both forms.
-/
import ShardSearch.Json.Value

namespace ShardSearch.Json

/-- The two digits of a control character's code unit. -/
def hexPair (n : Nat) : List Char := [Nat.digitChar (n / 16), Nat.digitChar (n % 16)]

/-- How a character is written in a string. -/
def printChar (c : Char) : List Char :=
  if c = '"' ∨ c = '\\' then ['\\', c]
  else if c = '\x08' then ['\\', 'b']
  else if c = '\x0c' then ['\\', 'f']
  else if c = '\n' then ['\\', 'n']
  else if c = '\r' then ['\\', 'r']
  else if c = '\t' then ['\\', 't']
  else if c < ' ' then ['\\', 'u', '0', '0'] ++ hexPair c.toNat
  else [c]

/-- A string between quotes. -/
def printString (s : List Char) : List Char := '"' :: s.flatMap printChar ++ ['"']

/-- A number. -/
def printNumber : Number → List Char
  | .natural n => (toString n).toList
  | .negative n => '-' :: (toString n).toList
  | .real isNegative x => (if isNegative then ['-'] else []) ++ (magnitudeText x).toList

/-- A value that holds no others. -/
def printScalar : Scalar → List Char
  | .null => "null".toList
  | .boolean b => if b then "true".toList else "false".toList
  | .number n => printNumber n
  | .string s => printString s

/-- How values are laid out. -/
inductive Layout where
  /-- On one line, without blanks. -/
  | compact
  /-- One item a line, indented. -/
  | indented
deriving DecidableEq, Repr

/-- What separates an item of a container at some level from what stands before it. -/
def Layout.break : Layout → Nat → List Char
  | .compact, _ => []
  | .indented, level => '\n' :: List.replicate (2 * level) ' '

/-- What stands between a key and its value. -/
def Layout.colon : Layout → List Char
  | .compact => [':']
  | .indented => [':', ' ']

mutual

/-- A value, inside `level` containers. -/
def printAt (layout : Layout) (level : Nat) : Value → List Char
  | .scalar x => printScalar x
  | .array [] => ['[', ']']
  | .array (x :: xs) =>
    '[' :: layout.break (level + 1) ++ printAt layout (level + 1) x ++
      printItems layout (level + 1) xs ++ layout.break level ++ [']']
  | .object [] => ['\x7b', '\x7d']
  | .object ((k, x) :: ms) =>
    '\x7b' :: layout.break (level + 1) ++ printString k ++ layout.colon ++
      printAt layout (level + 1) x ++ printMembers layout (level + 1) ms ++
      layout.break level ++ ['\x7d']

/-- The elements of an array after its first one. -/
def printItems (layout : Layout) (level : Nat) : List Value → List Char
  | [] => []
  | x :: xs => ',' :: layout.break level ++ printAt layout level x ++ printItems layout level xs

/-- The members of an object after its first one. -/
def printMembers (layout : Layout) (level : Nat) : List (List Char × Value) → List Char
  | [] => []
  | (k, x) :: ms =>
    ',' :: layout.break level ++ printString k ++ layout.colon ++ printAt layout level x ++
      printMembers layout level ms

end

/-- The text of a value. -/
def print (layout : Layout) (v : Value) : String := String.ofList (printAt layout 0 v)

end ShardSearch.Json
