/-
Where an index is published: at a URL or in a directory.

The index in a directory answers like a server: a file that is missing has status 404. How the network
answers a request to a URL is a parameter, like the files.
-/
import ShardSearch.Files.Snapshot

namespace ShardSearch

/-- What a server sends: a status, and a body that may break off while it is read. -/
structure Response where
  code : Nat
  body : Except String String
deriving Repr

/-- The network as it answers at one moment: for each URL a response, or why there is none. -/
abbrev Network := String → Except String Response

/-- The network of a program that is not attached to one. -/
def Network.detached : Network := fun _ => .error "no network"

/-- The base of a published index. -/
inductive Location where
  /-- A URL, ending with a slash. -/
  | url (base : String)
  /-- A directory, as it was given. -/
  | directory (root : String)
deriving DecidableEq, Repr

namespace Location

/-- A text that ends with a slash. -/
def withSlash (base : String) : String :=
  if base.toList.getLast? = some '/' then base else base ++ "/"

/-- Whether a base is a URL. -/
def isUrl (base : String) : Bool :=
  "http://".toList.isPrefixOf base.toList || "https://".toList.isPrefixOf base.toList

/-- The location that a base names. -/
def ofBase (base : String) : Location :=
  if isUrl base then .url (withSlash base) else .directory base

/-- Where a resource lives. -/
def locate : Location → String → String
  | .url base, resource => base ++ resource
  | .directory root, resource => Path.join root resource

/-- The file that holds a resource, for an index in a directory. -/
def path? : Location → String → Option String
  | .url _, _ => none
  | .directory root, resource => some (Path.join root resource)

/-- Reads a resource of an index in a directory. -/
def readFrom (files : Files) (path : String) : Except FetchError String :=
  match files.readText path with
  | .ok body => .ok body
  | .error .notFound => .error (.status path 404)
  | .error cause => .error (.unreadable path cause)

/-- Requests a resource of an index at a URL. Any status from 200 to 299 is a success. -/
def request (network : Network) (url : String) : Except FetchError String :=
  match network url with
  | .error message => .error (.transport url message)
  | .ok response =>
    if 200 ≤ response.code ∧ response.code ≤ 299 then
      match response.body with
      | .error message => .error (.transport url message)
      | .ok body => .ok body
    else .error (.status url response.code)

/-- The index at a location, with the files and the network as they are. -/
def source (files : Files) (network : Network) (l : Location) : Source where
  fetch resource :=
    match l with
    | .url _ => request network (l.locate resource)
    | .directory _ => readFrom files (l.locate resource)
  locate := l.locate

end Location

end ShardSearch
