/-
Lowercase of a text: the full Unicode mapping, with the one rule that looks at context.

Every character is mapped by itself, except the capital sigma: at the end of a word it becomes
the final small sigma. The end of a word means that the nearest character before it that is not
case-ignorable has case, and the nearest one after it has not.
-/
import ShardSearch.Text.CaseClass
import ShardSearch.Text.CaseRun

namespace ShardSearch.Text

/-- The capital I with a dot above, whose lowercase is an i and a combining dot. -/
def dottedCapitalI : Char := '\u0130'

/-- The combining dot above. -/
def dotAbove : Char := '\u0307'

/-- The capital sigma. -/
def capitalSigma : Char := '\u03a3'

/-- The small sigma within a word. -/
def smallSigma : Char := '\u03c3'

/-- The small sigma at the end of a word. -/
def finalSigma : Char := '\u03c2'

/-- The lowercase of a character that has a lowercase of one character, and every other
character itself. -/
def lowerSimple (c : Char) : Char :=
  match caseRuns.find? (·.covers c.toNat) with
  | some r => Char.ofNat ((c.toNat : Int) + r.shift).toNat
  | none => c

/-- The lowercase of a character standing alone. -/
def lowerChar (c : Char) : List Char :=
  if c = dottedCapitalI then ['i', dotAbove] else [lowerSimple c]

/-- Whether the first character that is not case-ignorable has case. -/
def meetsCased (s : List Char) : Bool := (s.dropWhile isCaseIgnorable).head?.any isCased

/-- Whether a sigma between `before`, read backwards, and `after` ends a word. -/
def endsWord (before after : List Char) : Bool := meetsCased before && !meetsCased after

/-- The lowercase of one character in its context. -/
def lowerIn (before : List Char) (c : Char) (after : List Char) : List Char :=
  if c = capitalSigma then [if endsWord before after then finalSigma else smallSigma]
  else lowerChar c

/-- The lowercase of the rest of a text, given the characters before it in reverse. -/
def lowerAfter (before : List Char) : List Char → List Char
  | [] => []
  | c :: rest => lowerIn before c rest ++ lowerAfter (c :: before) rest

/-- The lowercase of a text. -/
def lower (s : List Char) : List Char := lowerAfter [] s

/-- The lowercase of a string. -/
def lowercase (s : String) : String := String.ofList (lower s.toList)

end ShardSearch.Text
