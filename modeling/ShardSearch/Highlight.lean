/-
Marking the occurrences of a keyword in a text, case ignored.

The occurrences are found in the lowercase of the text, and their byte offsets are then used to
cut the text itself. That is sound only if lowercase keeps the width of every character; a text
with a character for which it does not is left alone.
-/
import ShardSearch.Style
import ShardSearch.Text.Lowercase
import ShardSearch.Text.Search

namespace ShardSearch.Highlight

/-- A part of a text. -/
inductive Piece where
  | plain (s : List Char)
  | marked (s : List Char)
deriving DecidableEq, Repr

/-- The characters of a piece. -/
def Piece.text : Piece → List Char
  | .plain s => s
  | .marked s => s

/-- Whether the lowercase of every character is as wide as the character. -/
def keepsWidth (text : List Char) : Bool :=
  text.all fun c => Text.width (Text.lowerChar c) == c.utf8Size

/-- Cuts the rest of a text, which starts at byte `cursor`, into marked parts of `length` bytes at
the given offsets and plain parts between them; absent if an offset lies inside a character or
past the end. -/
def piecesFrom (length : Nat) (cursor : Nat) : List Nat → List Char → Option (List Piece)
  | [], rest => some [.plain rest]
  | start :: starts, rest =>
    (Text.cutAt? (start - cursor) rest).bind fun (before, rest) =>
      (Text.cutAt? length rest).bind fun (hit, rest) =>
        (piecesFrom length (start + length) starts rest).map fun ps =>
          .plain before :: .marked hit :: ps

/-- The pieces of a text with the occurrences of a keyword marked; absent if a cut is
impossible. -/
def pieces? (text keyword : List Char) : Option (List Piece) :=
  if keyword.isEmpty || !keepsWidth text then some [.plain text]
  else
    let needle := Text.lower keyword
    piecesFrom (Text.width needle) 0 (Text.occurrences needle (Text.lower text)) text

/-- A piece as it is shown. -/
def Piece.render (isOn : Bool) : Piece → List Char
  | .plain s => s
  | .marked s => Style.highlight.paint isOn s

/-- A text with the occurrences of a keyword in the style of matched text; absent if a cut is
impossible. -/
def render? (isOn : Bool) (text keyword : List Char) : Option (List Char) :=
  (pieces? text keyword).map fun ps => ps.flatMap (Piece.render isOn)

/-- A text with the occurrences of a keyword in the style of matched text. -/
def render (isOn : Bool) (text keyword : String) : String :=
  ((render? isOn text.toList keyword.toList).map String.ofList).getD text

end ShardSearch.Highlight
