/-
Terminal styles: text between an opening sequence and a reset.

A reset inside the text would end the style early, so the opening sequence is repeated after it.
-/
namespace ShardSearch

/-- A style, by the codes of its opening sequence. -/
structure Style where
  codes : String
deriving DecidableEq, Repr

namespace Style

/-- The style of matched text: bold and yellow. -/
def highlight : Style := ⟨"1;33"⟩

/-- Bold. -/
def bold : Style := ⟨"1"⟩

/-- Dimmed. -/
def dimmed : Style := ⟨"2"⟩

/-- Red. -/
def red : Style := ⟨"31"⟩

/-- Green. -/
def green : Style := ⟨"32"⟩

/-- Yellow. -/
def yellow : Style := ⟨"33"⟩

/-- Cyan. -/
def cyan : Style := ⟨"36"⟩

/-- The sequence that ends every style. -/
def reset : List Char := ['\x1b', '[', '0', 'm']

/-- The sequence that starts a style. -/
def opening (s : Style) : List Char := ['\x1b', '['] ++ s.codes.toList ++ ['m']

/-- Repeats an opening sequence after every reset in a text. -/
def reopened (opening : List Char) : List Char → List Char
  | [] => []
  | '\x1b' :: '[' :: '0' :: 'm' :: rest => reset ++ opening ++ reopened opening rest
  | c :: rest => c :: reopened opening rest

/-- A text in a style, or as it is where styles are off. -/
def paint (isOn : Bool) (s : Style) (text : List Char) : List Char :=
  if isOn then s.opening ++ reopened s.opening text ++ reset else text

/-- The same for strings. -/
def paintString (isOn : Bool) (s : Style) (text : String) : String :=
  String.ofList (s.paint isOn text.toList)

end Style

end ShardSearch
