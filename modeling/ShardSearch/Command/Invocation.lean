/-
What a command line asks for, and why one is refused.
-/
import ShardSearch.Settings

namespace ShardSearch

/-- A shell for which completions can be asked. -/
inductive Shell where
  | bash
  | elvish
  | fish
  | powershell
  | zsh
deriving DecidableEq, Repr

namespace Shell

/-- All shells. -/
def all : List Shell := [.bash, .elvish, .fish, .powershell, .zsh]

/-- The name of a shell. -/
def name : Shell → String
  | .bash => "bash"
  | .elvish => "elvish"
  | .fish => "fish"
  | .powershell => "powershell"
  | .zsh => "zsh"

/-- The shell with a name. -/
def named? (s : String) : Option Shell := all.find? fun sh => sh.name = s

end Shell

namespace OutputFormat

/-- The name of a format. -/
def name : OutputFormat → String
  | .text => "text"
  | .json => "json"

/-- The format with a name. -/
def named? (s : String) : Option OutputFormat := [text, json].find? fun f => f.name = s

end OutputFormat

/-- What to do. -/
inductive Command where
  /-- Look a term up. -/
  | search (term : String) (context : Option Nat) (entries : Option String)
  /-- Show passages of a document. -/
  | context (keyword id : String) (limit : Option Nat)
  /-- Print the completions of a shell. -/
  | completions (shell : Shell)
deriving DecidableEq, Repr

/-- A command with the options that every command takes. -/
structure Invocation where
  format : Option OutputFormat
  isCompact : Bool
  base : Option String
  command : Command
deriving DecidableEq, Repr

/-- Why a command line is not carried out. -/
inductive UsageError where
  /-- There are no arguments at all. -/
  | noArguments
  /-- There are options and no command. -/
  | noCommand
  | unknownCommand (word : String)
  /-- An option that does not exist here, or one argument too many. -/
  | unknownArgument (word : String)
  | missingArgument
  /-- An option that takes a value stands without one. -/
  | missingValue
  /-- A value is none of those that can be chosen. -/
  | notAChoice (value : String)
  | notACount (value : String)
  /-- An option stands twice on the same side of the command. -/
  | repeatedOption
  /-- An option that takes no value has one. -/
  | surplusValue (value : String)
  /-- Not an error: help was asked for. -/
  | help
  /-- Not an error: the version was asked for. -/
  | version
deriving DecidableEq, Repr

/-- The text of a usage error. -/
def UsageError.message : UsageError → String
  | .noArguments => "no arguments"
  | .noCommand => "no command"
  | .unknownCommand word => "unknown command '" ++ word ++ "'"
  | .unknownArgument word => "unexpected argument '" ++ word ++ "'"
  | .missingArgument => "a required argument is missing"
  | .missingValue => "an option needs a value"
  | .notAChoice value => "'" ++ value ++ "' is not one of the possible values"
  | .notACount value => "'" ++ value ++ "' is not a count"
  | .repeatedOption => "an option is given twice"
  | .surplusValue value => "a value '" ++ value ++ "' for an option that takes none"
  | .help => "help"
  | .version => "version"

end ShardSearch
