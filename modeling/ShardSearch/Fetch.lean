/-
Retrieving the resources of a published index.

A source answers a request for a resource with its body or with an error, and names the place
where a resource lives. Requests are made by name relative to the base of the index.
-/
namespace ShardSearch

/-- Why a file could not be read. -/
inductive ReadError where
  | notFound
  | isDirectory
  | notDirectory
  | nameTooLong
  /-- The contents are no UTF-8. -/
  | notText
  /-- The path holds a zero character. -/
  | zeroInName
  | other (message : String)
deriving DecidableEq, Repr

/-- The text of a read error. -/
def ReadError.message : ReadError → String
  | .notFound => "No such file or directory (os error 2)"
  | .isDirectory => "Is a directory (os error 21)"
  | .notDirectory => "Not a directory (os error 20)"
  | .nameTooLong => "File name too long (os error 36)"
  | .notText => "stream did not contain valid UTF-8"
  | .zeroInName => "file name contained an unexpected NUL byte"
  | .other message => message

/-- Why a resource could not be retrieved. -/
inductive FetchError where
  /-- The server, or the directory, answered without success. -/
  | status (resource : String) (code : Nat)
  /-- The request got no answer. -/
  | transport (resource message : String)
  /-- The file could not be read. -/
  | unreadable (resource : String) (cause : ReadError)
deriving DecidableEq, Repr

namespace FetchError

/-- The text of a fetch error. -/
def message : FetchError → String
  | .status resource code =>
    "request for '" ++ resource ++ "' failed with status " ++ toString code
  | .transport resource message => "request for '" ++ resource ++ "' failed: " ++ message
  | .unreadable resource cause => "failed to read '" ++ resource ++ "': " ++ cause.message

/-- The status of an error that has one. -/
def code? : FetchError → Option Nat
  | .status _ code => some code
  | _ => none

end FetchError

/-- A published index as it answers at one moment. -/
structure Source where
  /-- The body of a resource. -/
  fetch : String → Except FetchError String
  /-- Where a resource lives, for messages. -/
  locate : String → String

end ShardSearch
