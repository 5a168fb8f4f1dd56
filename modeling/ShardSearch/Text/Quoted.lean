/-
Text in double quotes, as a message shows it: a character that is not visible is written by its
code point, and the quote and the backslash are escaped.
-/
import ShardSearch.Text.Visibility

namespace ShardSearch.Text

/-- A code point in hexadecimal between braces. -/
def codePoint (c : Char) : List Char :=
  ['\\', 'u', '\x7b'] ++ Nat.toDigits 16 c.toNat ++ ['\x7d']

/-- How a character is written inside quotes. -/
def quotedChar (c : Char) : List Char :=
  if c = '\x00' then ['\\', '0']
  else if c = '\t' then ['\\', 't']
  else if c = '\r' then ['\\', 'r']
  else if c = '\n' then ['\\', 'n']
  else if c = '\\' ∨ c = '"' then ['\\', c]
  else if isVisible c then [c]
  else codePoint c

/-- A text in quotes. -/
def quoted (s : List Char) : String := String.ofList ('"' :: s.flatMap quotedChar ++ ['"'])

end ShardSearch.Text
