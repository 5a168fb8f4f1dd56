/-
JSON numbers: the three kinds a literal is read as, and the text that names one in a message.

A literal without fraction and exponent is an integer as long as it fits: up to `2 ^ 64 - 1`
without a sign, from -1 down to `-2 ^ 63` with one. Every other literal is floating point.
-/
import ShardSearch.Decimal.Shortest
import ShardSearch.Text.Numeral

namespace ShardSearch.Json

open Decimal

/-- A number as it is read. -/
inductive Number where
  /-- An integer without a sign. -/
  | natural (n : Nat)
  /-- The integer `-n`. -/
  | negative (n : Nat)
  /-- A floating point number and its sign. -/
  | real (isNegative : Bool) (magnitude : Binary64)
deriving DecidableEq, Repr

/-- The parts of a number literal. -/
structure Literal where
  isNegative : Bool
  whole : List Char
  fraction : Option (List Char)
  /-- The exponent's sign and digits. -/
  power : Option (Bool × List Char)
deriving DecidableEq, Repr

namespace Literal

/-- Reads digits into a significand for as long as it stays within 64 bits. Returns the
significand, how many digits went into it, and how many were left over. -/
def accumulate (significand : Nat) : List Char → Nat × Nat × Nat
  | [] => (significand, 0, 0)
  | c :: rest =>
    let next := 10 * significand + (c.toNat - '0'.toNat)
    if next < Text.wordBound then
      let (s, used, left) := accumulate next rest
      (s, used + 1, left)
    else (significand, 0, rest.length + 1)

/-- The largest exponent that is taken at its value. -/
def powerBound : Nat := Nat.pow 2 31

/-- The number `significand * 10 ^ (shift + power)`; absent if it is too large. -/
def scaled (significand : Nat) (shift : Int) (power : Option (Bool × List Char)) :
    Option Binary64 :=
  let base := Binary64.ofRatio significand 1
  match power with
  | none => base.bind (·.scale shift)
  | some (down, digits) =>
    let e := (Text.digitsValueFrom 0 digits).getD 0
    if e < powerBound then base.bind (·.scale (if down then shift - e else shift + e))
    else if significand ≠ 0 ∧ ¬ down then none
    else some Binary64.zero

/-- The number of a literal; absent if it is too large for floating point. -/
def number? (l : Literal) : Option Number :=
  let (whole, _, dropped) := accumulate 0 l.whole
  match l.fraction, l.power, dropped with
  | none, none, 0 =>
    if ¬ l.isNegative then some (.natural whole)
    else if 0 < whole ∧ whole ≤ Nat.pow 2 63 then some (.negative whole)
    else (scaled whole 0 none).map (.real true)
  | fraction, power, dropped =>
    let (significand, used, _) := accumulate whole (fraction.getD [])
    (scaled significand ((dropped : Int) - used) power).map (.real l.isNegative)

end Literal

/-- An exponent with its sign. -/
def signed (e : Int) : String := if 0 ≤ e then "+" ++ toString e else toString e

/-- Digits with the decimal point after the first `point` of them: plain for points from -4 to
16, with a signed exponent otherwise. -/
def pointed (digits : List Char) (point : Int) : String :=
  let shift := point - digits.length
  let zeros (n : Int) := List.replicate n.toNat '0'
  let power := signed (point - 1)
  if 0 ≤ shift ∧ point ≤ 16 then String.ofList (digits ++ zeros shift ++ ['.', '0'])
  else if 0 < point ∧ point ≤ 16 then
    String.ofList (digits.take point.toNat ++ '.' :: digits.drop point.toNat)
  else if -5 < point ∧ point ≤ 0 then String.ofList ('0' :: '.' :: zeros (-point) ++ digits)
  else
    match digits with
    | [d] => String.ofList [d, 'e'] ++ power
    | digits => String.ofList (digits.take 1 ++ '.' :: digits.drop 1 ++ ['e']) ++ power

/-- The text of a magnitude: the fewest digits that read back, and always a point or an
exponent. -/
def magnitudeText (x : Binary64) : String :=
  if x.significand = 0 then "0.0"
  else
    let d := x.shortest
    let digits := (toString d.digits).toList
    pointed digits (digits.length + d.exponent)

/-- How a message names a number. -/
def Number.described : Number → String
  | .natural n => "integer `" ++ toString n ++ "`"
  | .negative n => "integer `-" ++ toString n ++ "`"
  | .real isNegative x =>
    "floating point `" ++ (if isNegative then "-" else "") ++ magnitudeText x ++ "`"

end ShardSearch.Json
