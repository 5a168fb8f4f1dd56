/-
How a command shows what it found.
-/
import ShardSearch.Command.Display
import ShardSearch.Json.Printer
import ShardSearch.Settings

namespace ShardSearch

/-- The form of a command's output. -/
structure Presentation where
  format : OutputFormat
  /-- Whether JSON stands on one line. -/
  isCompact : Bool
  display : Display
deriving DecidableEq, Repr

namespace Presentation

/-- How JSON is laid out. -/
def layout (p : Presentation) : Json.Layout := if p.isCompact then .compact else .indented

/-- A JSON value with the end of its last line. -/
def printJson (p : Presentation) (v : Json.Value) : String := Json.print p.layout v ++ "\n"

end Presentation

end ShardSearch
