/-
The lexical layer of the TOML reader: blanks, comments, strings, numbers and dates.

A reader returns what it read and the text after it, and nothing at all if the text does not
start with what it reads: a settings file is either read or refused, so no reason is kept.
-/
import ShardSearch.Decimal.Binary64
import ShardSearch.Json.Scan

namespace ShardSearch.Toml

/-- A reader of one thing at the front of a text. -/
abbrev Reader (α : Type) := List Char → Option (α × List Char)

/-- The characters that may stand between tokens on a line. -/
def isBlank (c : Char) : Bool := c = ' ' || c = '\t'

/-- A text without its leading blanks. -/
def skipBlanks (s : List Char) : List Char := s.dropWhile isBlank

/-- The characters that comments and strings may hold: the tab and everything but controls. -/
def isPlain (c : Char) : Bool := c = '\t' || (' ' ≤ c && c ≠ '\x7f')

/-- Reads the end of a line. -/
def newline? : List Char → Option (List Char)
  | '\n' :: rest => some rest
  | '\r' :: '\n' :: rest => some rest
  | _ => none

/-- A text without the comment at its front. -/
def skipComment : List Char → List Char
  | '#' :: rest => rest.dropWhile isPlain
  | s => s

/-- Reads the rest of a line on which only a comment may follow. -/
def lineEnd? (s : List Char) : Option (List Char) :=
  match skipComment (skipBlanks s) with
  | [] => some []
  | s => newline? s

/-- Passes over blanks and ends of lines, in at most `rounds` rounds. -/
def skipSpaceIn : (rounds : Nat) → List Char → List Char
  | 0, s => s
  | rounds + 1, s =>
    match newline? (skipBlanks s) with
    | some rest => skipSpaceIn rounds rest
    | none => skipBlanks s

/-- Passes over blanks, comments and ends of lines, in at most `rounds` rounds. -/
def skipLinesIn : (rounds : Nat) → List Char → List Char
  | 0, s => s
  | rounds + 1, s =>
    match newline? (skipComment (skipBlanks s)) with
    | some rest => skipLinesIn rounds rest
    | none => skipBlanks s

/-- Passes over blanks, comments and ends of lines. -/
def skipLines (s : List Char) : List Char := skipLinesIn (s.length + 1) s

/-! ## Strings -/

/-- Reads a character given by exactly `n` hexadecimal digits. -/
def hexChar (n : Nat) (s : List Char) : Option (Char × List Char) :=
  let ds := (s.take n).filterMap Json.hexValue?
  let code := ds.foldl (fun acc d => 16 * acc + d) 0
  if ds.length = n ∧ code.isValidChar then some (Char.ofNat code, s.drop n) else none

/-- Reads an escape after its backslash. -/
def escape : Reader Char
  | 'u' :: rest => hexChar 4 rest
  | 'U' :: rest => hexChar 8 rest
  | c :: rest => if c = '/' then none else (Json.escaped? c).map fun d => (d, rest)
  | [] => none

/-- Puts characters in front of what is read after them. -/
def prepend (cs : List Char) : Option (List Char × List Char) → Option (List Char × List Char)
  | some (ds, rest) => some (cs ++ ds, rest)
  | none => none

/-- Reads a string with escapes up to its closing quote. -/
def basicIn : (rounds : Nat) → Reader (List Char)
  | 0, _ => none
  | _ + 1, [] => none
  | rounds + 1, c :: rest =>
    if c = '"' then some ([], rest)
    else if c = '\\' then (escape rest).bind fun (d, rest) => prepend [d] (basicIn rounds rest)
    else if isPlain c then prepend [c] (basicIn rounds rest)
    else none

/-- Reads a string without escapes up to its closing quote. -/
def verbatim (s : List Char) : Option (List Char × List Char) :=
  let (body, rest) := s.span fun c => isPlain c && c ≠ '\''
  match rest with
  | '\'' :: rest => some (body, rest)
  | _ => none

/-- The quotes that belong to the contents of a long string when `count` quotes stand at its end:
all but three, and at most two. -/
def spareQuotes (count : Nat) : Nat := min (count - 3) 2

/-- Reads a long string up to its closing quotes. An end of line inside it becomes a newline, and
a backslash at the end of a line removes all space up to the next visible character. -/
def longIn (quote : Char) (hasEscapes : Bool) : (rounds : Nat) → Reader (List Char)
  | 0, _ => none
  | _ + 1, [] => none
  | rounds + 1, c :: rest =>
    if c = quote then
      let count := ((c :: rest).takeWhile (· = quote)).length
      if 3 ≤ count then
        let spare := spareQuotes count
        some (List.replicate spare quote, (c :: rest).drop (spare + 3))
      else prepend [c] (longIn quote hasEscapes rounds rest)
    else if c = '\\' ∧ hasEscapes then
      match newline? (skipBlanks rest) with
      | some rest => longIn quote hasEscapes rounds (skipSpaceIn (rest.length + 1) rest)
      | none =>
        (escape rest).bind fun (d, rest) => prepend [d] (longIn quote hasEscapes rounds rest)
    else
      match newline? (c :: rest) with
      | some rest => prepend ['\n'] (longIn quote hasEscapes rounds rest)
      | none => if isPlain c then prepend [c] (longIn quote hasEscapes rounds rest) else none

/-- Reads a long string after its opening quotes; an end of line right after them is dropped. -/
def long (quote : Char) (hasEscapes : Bool) (s : List Char) : Option (List Char × List Char) :=
  longIn quote hasEscapes (s.length + 1) ((newline? s).getD s)

/-- Reads a string on one line. -/
def shortString : Reader (List Char)
  | '"' :: rest => basicIn (rest.length + 1) rest
  | '\'' :: rest => verbatim rest
  | _ => none

/-- Reads a string. -/
def string : Reader (List Char)
  | '"' :: '"' :: '"' :: rest => long '"' true rest
  | '\'' :: '\'' :: '\'' :: rest => long '\'' false rest
  | s => shortString s

/-! ## Keys -/

/-- The characters of a key without quotes. -/
def isKeyChar (c : Char) : Bool := c.isAlphanum || c = '_' || c = '-'

/-- Reads one part of a key. -/
def keyPart (s : List Char) : Option (List Char × List Char) :=
  match s.span isKeyChar with
  | ([], s) => shortString s
  | part => some part

/-- Reads the parts of a key, with dots between them, in at most `rounds` rounds. -/
def keyIn : (rounds : Nat) → Reader (List (List Char))
  | 0, _ => none
  | rounds + 1, s =>
    match keyPart (skipBlanks s) with
    | none => none
    | some (part, rest) =>
      match skipBlanks rest with
      | '.' :: rest => (keyIn rounds rest).map fun (parts, rest) => (part :: parts, rest)
      | rest => some ([part], rest)

/-- The most parts a key may have. -/
def longestKey : Nat := 79

/-- Reads a key. -/
def key (s : List Char) : Option (List (List Char) × List Char) := keyIn longestKey s

/-! ## Numbers -/

/-- Reads the digits after a first one; single underscores may stand between digits. -/
def moreDigits (isDigit : Char → Bool) : Reader (List Char)
  | [] => some ([], [])
  | '_' :: c :: rest => if isDigit c then prepend [c] (moreDigits isDigit rest) else none
  | ['_'] => none
  | c :: rest => if isDigit c then prepend [c] (moreDigits isDigit rest) else some ([], c :: rest)

/-- Reads digits, of which there is at least one. -/
def digitGroup (isDigit : Char → Bool) : Reader (List Char)
  | c :: rest => if isDigit c then prepend [c] (moreDigits isDigit rest) else none
  | [] => none

/-- Reads a sign: whether it is a minus. -/
def sign : List Char → Bool × List Char
  | '-' :: rest => (true, rest)
  | '+' :: rest => (false, rest)
  | s => (false, s)

/-- Reads the whole part of a decimal number: a zero, or digits that do not start with zero. -/
def wholePart : Reader (List Char)
  | '0' :: rest => some (['0'], rest)
  | s => digitGroup Char.isDigit s

/-- The value of digits in a base. -/
def valueIn (base : Nat) (digits : List Char) : Nat :=
  digits.foldl (fun acc c => base * acc + (Json.hexValue? c).getD 0) 0

/-- One more than the largest integer of 64 bits with a sign. -/
def integerBound : Nat := Nat.pow 2 63

/-- Reads an integer of 64 bits. -/
def integer (s : List Char) : Option (Int × List Char) :=
  let based (base : Nat) (isDigit : Char → Bool) (s : List Char) : Option (Int × List Char) :=
    (digitGroup isDigit s).bind fun (ds, rest) =>
      if valueIn base ds < integerBound then some ((valueIn base ds : Int), rest) else none
  match s with
  | '0' :: 'x' :: rest => based 16 (fun c => (Json.hexValue? c).isSome) rest
  | '0' :: 'o' :: rest => based 8 (fun c => '0' ≤ c && c ≤ '7') rest
  | '0' :: 'b' :: rest => based 2 (fun c => c = '0' || c = '1') rest
  | s =>
    let (isNegative, s) := sign s
    (wholePart s).bind fun (ds, rest) =>
      let n : Int := if isNegative then -(valueIn 10 ds : Int) else valueIn 10 ds
      if -(integerBound : Int) ≤ n ∧ n < integerBound then some (n, rest) else none

/-- Reads the fraction of a number, if there is one. -/
def fractionPart : Reader (Option (List Char))
  | '.' :: rest => (digitGroup Char.isDigit rest).map fun (ds, rest) => (some ds, rest)
  | s => some (none, s)

/-- Reads the exponent of a number, if there is one. -/
def powerPart : Reader (Option Int)
  | 'e' :: rest | 'E' :: rest =>
    let (isNegative, rest) := sign rest
    (digitGroup Char.isDigit rest).map fun (ds, rest) =>
      (some (if isNegative then -(valueIn 10 ds : Int) else valueIn 10 ds), rest)
  | s => some (none, s)

/-- Whether `significand * 10 ^ power` is beyond the largest floating point number. Far from the
border the number of digits decides. -/
def isBeyond (significand : List Char) (power : Int) : Bool :=
  let digits := significand.dropWhile (· = '0')
  let point := digits.length + power
  if digits.isEmpty || point < 300 then false
  else if 320 < point then true
  else
    let n := valueIn 10 digits
    (Decimal.Binary64.ofRatio (n * Nat.pow 10 power.toNat) (Nat.pow 10 (-power).toNat)).isNone

/-- Reads a floating point number with a fraction or an exponent. A positive one has to be
finite. -/
def decimal (s : List Char) : Option (List Char) :=
  let (isNegative, s) := sign s
  (wholePart s).bind fun (whole, s) =>
    (fractionPart s).bind fun (fraction, s) =>
      (powerPart s).bind fun (power, rest) =>
        if fraction.isNone ∧ power.isNone then none
        else
          let ds := fraction.getD []
          if !isNegative && isBeyond (whole ++ ds) (power.getD 0 - ds.length) then none
          else some rest

/-- Reads a word. -/
def word : (expected : List Char) → List Char → Option (List Char)
  | [], s => some s
  | _ :: _, [] => none
  | c :: cs, d :: s => if c = d then word cs s else none

/-- Reads an infinite or undefined number. -/
def special (s : List Char) : Option (List Char) :=
  let (_, s) := sign s
  (word ['i', 'n', 'f'] s).or (word ['n', 'a', 'n'] s)

/-- Reads a floating point number. -/
def float (s : List Char) : Option (List Char) := (decimal s).or (special s)

/-! ## Dates and times -/

/-- Reads a number of exactly `n` digits within bounds. -/
def field (n lo hi : Nat) (s : List Char) : Option (Nat × List Char) :=
  let ds := s.take n
  if ds.length = n ∧ ds.all Char.isDigit ∧ lo ≤ valueIn 10 ds ∧ valueIn 10 ds ≤ hi then
    some (valueIn 10 ds, s.drop n)
  else none

/-- The number of days of a month. -/
def daysIn (year month : Nat) : Nat :=
  if month = 2 then
    if year % 4 = 0 ∧ (year % 100 ≠ 0 ∨ year % 400 = 0) then 29 else 28
  else if month = 4 ∨ month = 6 ∨ month = 9 ∨ month = 11 then 30
  else 31

/-- Reads a date. -/
def date (s : List Char) : Option (List Char) := do
  let (year, s) ← field 4 0 9999 s
  let s ← word ['-'] s
  let (month, s) ← field 2 1 12 s
  let s ← word ['-'] s
  let (_, s) ← field 2 1 (daysIn year month) s
  pure s

/-- Reads the fraction of a second, if there is one. -/
def secondFraction : List Char → Option (List Char)
  | '.' :: rest =>
    match rest.span Char.isDigit with
    | ([], _) => none
    | (_, rest) => some rest
  | s => some s

/-- Reads a time of day; a leap second is allowed. -/
def time (s : List Char) : Option (List Char) := do
  let (_, s) ← field 2 0 23 s
  let s ← word [':'] s
  let (_, s) ← field 2 0 59 s
  let s ← word [':'] s
  let (_, s) ← field 2 0 60 s
  secondFraction s

/-- Reads the distance from universal time, if there is one. -/
def offset : List Char → Option (List Char)
  | 'Z' :: rest | 'z' :: rest => some rest
  | c :: rest =>
    if c = '+' ∨ c = '-' then do
      let (_, s) ← field 2 0 23 rest
      let s ← word [':'] s
      let (_, s) ← field 2 0 59 s
      pure s
    else some (c :: rest)
  | [] => some []

/-- Reads the time that may follow a date. Without a time the separator is left where it is. -/
def timeAfterDate (s : List Char) : Option (List Char) :=
  match s with
  | c :: rest =>
    if c = 'T' ∨ c = 't' ∨ c = ' ' then
      match time rest with
      | some rest => offset rest
      | none => some s
    else some s
  | [] => some []

/-- Reads a date, a time or both. -/
def moment (s : List Char) : Option (List Char) := ((date s).bind timeAfterDate).or (time s)

end ShardSearch.Toml
