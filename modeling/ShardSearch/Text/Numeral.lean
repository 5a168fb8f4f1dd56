/-
Decimal numerals for counts of 64 bits: which texts are numerals, and their value.

A numeral is an optional plus sign and at least one ASCII digit; leading zeros are allowed and
the value has to fit in 64 bits. Overflow is judged on the value, so a long run of zeros is
harmless.
-/
namespace ShardSearch.Text

/-- One more than the largest count of 64 bits. -/
def wordBound : Nat := Nat.pow 2 64

/-- The value of an ASCII digit. -/
def digitValue? (c : Char) : Option Nat :=
  if c.isDigit then some (c.toNat - '0'.toNat) else none

/-- The value of digits read after `acc`, absent at the first character that is no digit. -/
def digitsValueFrom (acc : Nat) : List Char → Option Nat
  | [] => some acc
  | c :: rest => (digitValue? c).bind fun d => digitsValueFrom (10 * acc + d) rest

/-- The value of a non-empty run of digits. -/
def digitsValue? : List Char → Option Nat
  | [] => none
  | s => digitsValueFrom 0 s

/-- The digits of a numeral: the text without its plus sign. -/
def unsigned : List Char → List Char
  | '+' :: rest => rest
  | s => s

/-- The count that a numeral stands for; absent if the text is no numeral or the value takes
more than 64 bits. -/
def count? (s : String) : Option Nat :=
  (digitsValue? (unsigned s.toList)).filter (· < wordBound)

end ShardSearch.Text
