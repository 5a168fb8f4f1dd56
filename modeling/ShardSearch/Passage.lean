/-
Passages of a document: the paragraphs of its text that mention a keyword.

Paragraphs are separated by empty lines, that is by two newlines in a row; of three newlines the
third belongs to the next paragraph. Case is ignored in the comparison and kept in the result.
-/
import ShardSearch.Document
import ShardSearch.Fetch
import ShardSearch.Text.Lowercase
import ShardSearch.Text.Search

namespace ShardSearch.Passage

/-- The paragraphs of a text. -/
def paragraphs : List Char → List (List Char)
  | [] => [[]]
  | '\n' :: '\n' :: rest => [] :: paragraphs rest
  | c :: rest =>
    match paragraphs rest with
    | [] => [[c]]
    | p :: ps => (c :: p) :: ps

/-- Whether a paragraph mentions a keyword, case ignored. -/
def mentions (keyword paragraph : List Char) : Bool :=
  Text.occursIn (Text.lower keyword) (Text.lower paragraph)

/-- The first paragraphs of a text that mention a keyword, at most `limit` of them. -/
def matching (text keyword : List Char) (limit : Nat) : List (List Char) :=
  ((paragraphs text).filter (mentions keyword)).take limit

/-- The same for strings. -/
def select (text keyword : String) (limit : Nat) : List String :=
  (matching text.toList keyword.toList limit).map String.ofList

/-- The passages of a document that a source publishes. -/
def extract (source : Source) (keyword : String) (id : DocumentId) (limit : Nat) :
    Except FetchError (List String) :=
  match source.fetch id.source with
  | .error e => .error e
  | .ok text => .ok (select text keyword limit)

/-- The number of passages shown unless another one is set. -/
def defaultLimit : Nat := 1

end ShardSearch.Passage
