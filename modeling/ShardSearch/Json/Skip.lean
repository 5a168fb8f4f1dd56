/-
Passing over a value that is going to be refused anyway.

The skipping reader checks the punctuation of a value and nothing more: containers may be nested
to any depth, numbers may have any size, and the code units of strings need not form pairs. A
number that breaks off at the end of the text is malformed here.
-/
import ShardSearch.Json.Container

namespace ShardSearch.Json

/-- How far into an escape the skipping string machine is. -/
inductive SkipProgress where
  | plain
  | escape
  /-- `left + 1` hexadecimal digits are still due. -/
  | unit (left : Nat)
deriving DecidableEq, Repr

/-- Passes over a string up to its closing quote. -/
def skipStringFrom : SkipProgress → List Char → Except Fault (List Char)
  | _, [] => .error .truncated
  | .plain, c :: rest =>
    if c = '"' then .ok rest
    else if c = '\\' then skipStringFrom .escape rest
    else if c < ' ' then .error .malformed
    else skipStringFrom .plain rest
  | .escape, c :: rest =>
    if c = 'u' then
      if Text.width rest < unitWidth then .error .truncated else skipStringFrom (.unit 3) rest
    else if (escaped? c).isSome then skipStringFrom .plain rest
    else .error .malformed
  | .unit left, c :: rest =>
    if (hexValue? c).isSome then
      match left with
      | left + 1 => skipStringFrom (.unit left) rest
      | 0 => skipStringFrom .plain rest
    else .error .malformed

/-- Passes over a string after its opening quote. -/
def skipString (s : List Char) : Except Fault (Unit × List Char) :=
  match skipStringFrom .plain s with
  | .ok rest => .ok ((), rest)
  | .error f => .error f

/-- Passes over a number. -/
def skipNumber (s : List Char) : Except Fault (Unit × List Char) :=
  match literal s with
  | .ok (_, rest) => .ok ((), rest)
  | .error _ => .error .malformed

/-- Passes over a value that holds no others. -/
def skipScalar : Reader Unit
  | '"' :: rest => skipString rest
  | c :: rest =>
    if c = '-' ∨ c.isDigit then skipNumber (c :: rest)
    else
      match scalar (c :: rest) with
      | .ok (_, rest) => .ok ((), rest)
      | .error f => .error f
  | [] => .error .truncated

/-- Passes over a value with at most `rounds` containers inside one another. -/
def skipIn : (rounds : Nat) → Reader Unit
  | 0, _ => .error .truncated
  | rounds + 1, s =>
    match skipBlanks s with
    | '[' :: rest =>
      match elements (skipIn rounds) rest with
      | .ok (_, rest) => .ok ((), rest)
      | .error f => .error f
    | '\x7b' :: rest =>
      match members skipString (skipIn rounds) rest with
      | .ok (_, rest) => .ok ((), rest)
      | .error f => .error f
    | s => skipScalar s

/-- Passes over a value. Its length bounds how deep its containers can be nested. -/
def skip (s : List Char) : Except Fault (Unit × List Char) := skipIn (s.length + 1) s

end ShardSearch.Json
