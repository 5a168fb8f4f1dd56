/-
The lexical layer of the JSON reader: blanks, literal names, number literals and strings.

A reader takes the text that is left and returns what it read and the text after it. Strings are
read one character at a time by a machine that remembers how much of an escape it has seen, so
that every reader here recurses on the text itself.
-/
import ShardSearch.Json.Fault
import ShardSearch.Text.Search

namespace ShardSearch.Json

/-- A reader of one thing at the front of a text. -/
abbrev Reader (α : Type) := List Char → Except Fault (α × List Char)

/-- The characters that may stand between tokens. -/
def isBlank (c : Char) : Bool := c = ' ' || c = '\n' || c = '\t' || c = '\r'

/-- A text without its leading blanks. -/
def skipBlanks (s : List Char) : List Char := s.dropWhile isBlank

/-- Reads the rest of a literal name. -/
def name : List Char → List Char → Except Fault (List Char)
  | [], s => .ok s
  | _ :: _, [] => .error .truncated
  | c :: cs, d :: s => if c = d then name cs s else .error .malformed

/-- A run of digits at the front of a text. -/
def digits (s : List Char) : List Char × List Char := s.span Char.isDigit

/-- Reads at least one digit. -/
def someDigits (s : List Char) : Except Fault (List Char × List Char) :=
  match digits s with
  | ([], []) => .error .truncated
  | ([], _ :: _) => .error .malformed
  | (ds, rest) => .ok (ds, rest)

/-- Reads the whole part of a number: a zero that no digit follows, or digits that do not start
with zero. -/
def wholePart (s : List Char) : Except Fault (List Char × List Char) := do
  let (ds, rest) ← someDigits s
  match ds with
  | '0' :: _ :: _ => .error .malformed
  | ds => .ok (ds, rest)

/-- Reads the fraction of a number, if there is one. -/
def fractionPart : Reader (Option (List Char))
  | '.' :: s => do
    let (ds, rest) ← someDigits s
    .ok (some ds, rest)
  | s => .ok (none, s)

/-- Reads the sign of an exponent: whether it is a minus. -/
def powerSign : List Char → Bool × List Char
  | '+' :: s => (false, s)
  | '-' :: s => (true, s)
  | s => (false, s)

/-- Reads the exponent of a number, if there is one. -/
def powerPart : Reader (Option (Bool × List Char))
  | 'e' :: s | 'E' :: s => do
    let (down, s) := powerSign s
    let (ds, rest) ← someDigits s
    .ok (some (down, ds), rest)
  | s => .ok (none, s)

/-- Reads the sign of a number: whether it is a minus. -/
def numberSign : List Char → Bool × List Char
  | '-' :: s => (true, s)
  | s => (false, s)

/-- Reads a number literal. -/
def literal (s : List Char) : Except Fault (Literal × List Char) := do
  let (isNegative, s) := numberSign s
  let (whole, s) ← wholePart s
  let (fraction, s) ← fractionPart s
  let (power, s) ← powerPart s
  .ok (⟨isNegative, whole, fraction, power⟩, s)

/-- Reads a number. -/
def number (s : List Char) : Except Fault (Number × List Char) := do
  let (l, s) ← literal s
  match l.number? with
  | some n => .ok (n, s)
  | none => .error .malformed

/-- The value of a hexadecimal digit. -/
def hexValue? (c : Char) : Option Nat :=
  if c.isDigit then some (c.toNat - '0'.toNat)
  else if 'a' ≤ c ∧ c ≤ 'f' then some (c.toNat - 'a'.toNat + 10)
  else if 'A' ≤ c ∧ c ≤ 'F' then some (c.toNat - 'A'.toNat + 10)
  else none

/-- The character of an escape of one letter. -/
def escaped? (c : Char) : Option Char :=
  if c = '"' ∨ c = '\\' ∨ c = '/' then some c
  else if c = 'b' then some '\x08'
  else if c = 'f' then some '\x0c'
  else if c = 'n' then some '\n'
  else if c = 'r' then some '\r'
  else if c = 't' then some '\t'
  else none

/-- Whether a code unit opens a surrogate pair. -/
def isHighSurrogate (n : Nat) : Bool := 0xD800 ≤ n && n ≤ 0xDBFF

/-- Whether a code unit closes a surrogate pair. -/
def isLowSurrogate (n : Nat) : Bool := 0xDC00 ≤ n && n ≤ 0xDFFF

/-- The character of a surrogate pair. -/
def paired (high low : Nat) : Char :=
  Char.ofNat ((high - 0xD800) * 0x400 + (low - 0xDC00) + 0x10000)

/-- How far into an escape the string machine is. -/
inductive Progress where
  /-- Between characters. -/
  | plain
  /-- After a backslash. -/
  | escape
  /-- In the digits of a code unit: `left + 1` digits are still due, `sofar` is the value of those
  read, and `high` is the first half of the pair that this unit has to complete. -/
  | unit (left sofar : Nat) (high : Option Nat)
  /-- After the first half of a pair. -/
  | half (high : Nat)
  /-- After the first half of a pair and a backslash. -/
  | halfEscape (high : Nat)
deriving DecidableEq, Repr

/-- The fewest bytes that must be left for the digits of a code unit. -/
def unitWidth : Nat := 4

/-- Puts a character in front of what is read after it. -/
def prepend (c : Char) : Except Fault (List Char × List Char) → Except Fault (List Char × List Char)
  | .ok (cs, rest) => .ok (c :: cs, rest)
  | .error f => .error f

/-- Reads a string up to its closing quote. -/
def stringFrom : Progress → List Char → Except Fault (List Char × List Char)
  | _, [] => .error .truncated
  | .plain, c :: rest =>
    if c = '"' then .ok ([], rest)
    else if c = '\\' then stringFrom .escape rest
    else if c < ' ' then .error .malformed
    else prepend c (stringFrom .plain rest)
  | .escape, c :: rest =>
    if c = 'u' then
      if Text.width rest < unitWidth then .error .truncated else stringFrom (.unit 3 0 none) rest
    else
      match escaped? c with
      | some d => prepend d (stringFrom .plain rest)
      | none => .error .malformed
  | .unit left sofar high, c :: rest =>
    match hexValue? c with
    | none => .error .malformed
    | some d =>
      let n := 16 * sofar + d
      match left, high with
      | left + 1, high => stringFrom (.unit left n high) rest
      | 0, some high =>
        if isLowSurrogate n then prepend (paired high n) (stringFrom .plain rest)
        else .error .malformed
      | 0, none =>
        if isLowSurrogate n then .error .malformed
        else if isHighSurrogate n then stringFrom (.half n) rest
        else prepend (Char.ofNat n) (stringFrom .plain rest)
  | .half high, c :: rest =>
    if c = '\\' then stringFrom (.halfEscape high) rest else .error .malformed
  | .halfEscape high, c :: rest =>
    if c = 'u' then
      if Text.width rest < unitWidth then .error .truncated
      else stringFrom (.unit 3 0 (some high)) rest
    else .error .malformed

/-- Reads a string after its opening quote. -/
def string (s : List Char) : Except Fault (List Char × List Char) := stringFrom .plain s

/-- Reads a value that holds no others. -/
def scalar : Reader Scalar
  | [] => .error .truncated
  | c :: rest =>
    if c = 'n' then do
      let rest ← name ['u', 'l', 'l'] rest
      .ok (.null, rest)
    else if c = 't' then do
      let rest ← name ['r', 'u', 'e'] rest
      .ok (.boolean true, rest)
    else if c = 'f' then do
      let rest ← name ['a', 'l', 's', 'e'] rest
      .ok (.boolean false, rest)
    else if c = '"' then do
      let (s, rest) ← string rest
      .ok (.string s, rest)
    else if c = '-' ∨ c.isDigit then do
      let (n, rest) ← number (c :: rest)
      .ok (.number n, rest)
    else .error .malformed

end ShardSearch.Json
