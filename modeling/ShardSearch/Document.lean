/-
Document identifiers: opaque tokens, some of which are ordinals into the list of entries.
-/
import ShardSearch.Text.Numeral

namespace ShardSearch

/-- The token of a document. It is also the stem of the document's text file. -/
structure DocumentId where
  token : String
deriving DecidableEq, Repr

namespace DocumentId

/-- The identifier of the document with an ordinal. -/
def ofOrdinal (n : Nat) : DocumentId := ⟨toString n⟩

/-- The ordinal that a token stands for, if it is a numeral of 64 bits. -/
def ordinal? (id : DocumentId) : Option Nat := Text.count? id.token

/-- The resource that holds the plain text of a document. -/
def source (id : DocumentId) : String := "src/" ++ id.token ++ ".txt"

end DocumentId

end ShardSearch
