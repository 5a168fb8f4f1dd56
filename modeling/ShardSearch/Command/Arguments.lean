/-
Reading a command line.

Arguments come in two rounds: those before the name of a command, and those after it. Each round
knows some options and, after the name, some positional arguments. Options that belong to every
command are known in both rounds, and what is given after the name wins.

A value is judged late. It is kept open until the next option or positional argument is accepted,
or the round is over, so an argument that is unknown is reported before a bad value in front of
it. For the same reason a value left open before the name of a command is judged last of all.
-/
import ShardSearch.Command.Invocation
import ShardSearch.Text.Numeral

namespace ShardSearch

/-- A word that names what to do. -/
inductive Verb where
  | search
  | context
  | completions
  | help
deriving DecidableEq, Repr

/-- The verb that a word names; some verbs have short names. -/
def Verb.named? : String → Option Verb
  | "search" | "s" | "find" => some .search
  | "context" | "ctx" => some .context
  | "completions" => some .completions
  | "help" => some .help
  | _ => none

/-- Something that arguments can set or ask for. -/
inductive Parameter where
  | format
  | compact
  | base
  | help
  | version
  | context
  | entries
  | limit
  | term
  | keyword
  | id
  | shell
deriving DecidableEq, Repr

namespace Parameter

/-- The long name of an option. -/
def long? : Parameter → Option String
  | .format => some "format"
  | .compact => some "compact"
  | .base => some "base"
  | .help => some "help"
  | .version => some "version"
  | .context => some "context"
  | .entries => some "entries"
  | .limit => some "limit"
  | .term | .keyword | .id | .shell => none

/-- The letter of an option. -/
def letter? : Parameter → Option Char
  | .base => some 'b'
  | .help => some 'h'
  | .version => some 'V'
  | .context => some 'C'
  | .entries => some 'e'
  | .limit => some 'n'
  | _ => none

/-- Whether a parameter takes a value. -/
def takesValue : Parameter → Bool
  | .compact | .help | .version => false
  | _ => true

/-- Why a value is refused, if it is. -/
def objection? (p : Parameter) (value : String) : Option UsageError :=
  match p with
  | .format => if (OutputFormat.named? value).isSome then none else some (.notAChoice value)
  | .shell => if (Shell.named? value).isSome then none else some (.notAChoice value)
  | .context | .limit => if (Text.count? value).isSome then none else some (.notACount value)
  | _ => none

end Parameter

/-- A round of arguments. -/
inductive Round where
  /-- Before the name of a command. -/
  | outer
  /-- After it. -/
  | inner (verb : Verb)
deriving DecidableEq, Repr

namespace Round

/-- The options of a round. -/
def options : Round → List Parameter
  | .outer => [.format, .compact, .base, .help, .version]
  | .inner .search => [.format, .compact, .base, .help, .context, .entries]
  | .inner .context => [.format, .compact, .base, .help, .limit]
  | .inner _ => [.format, .compact, .base, .help]

/-- The positional arguments of a round, all of which are required. -/
def positionals : Round → List Parameter
  | .inner .search => [.term]
  | .inner .context => [.keyword, .id]
  | .inner .completions => [.shell]
  | _ => []

/-- The verb that a word names in a round. -/
def verb? : Round → String → Option Verb
  | .outer, word => Verb.named? word
  | .inner _, _ => none

/-- The error for a word that has no place in a round. Where a command is expected the word is
taken for one, unless it names a verb that dashes have turned into a plain word. -/
def misfit (r : Round) (word : String) : UsageError :=
  match r with
  | .outer => if (Verb.named? word).isSome then .unknownArgument word else .unknownCommand word
  | .inner _ => .unknownArgument word

end Round

/-- The form of an argument. -/
inductive Token where
  /-- Two dashes: everything after them is positional. -/
  | dashes
  /-- Two dashes and a name, perhaps with an equals sign and a value. -/
  | long (name : List Char) (value : Option (List Char))
  /-- One dash and at least one letter. -/
  | letters (cs : List Char)
  /-- Anything else, a single dash included. -/
  | word
deriving DecidableEq, Repr

/-- Splits an option at its first equals sign. -/
def Token.splitValue (cs : List Char) : List Char × Option (List Char) :=
  match cs.span (· ≠ '=') with
  | (name, '=' :: value) => (name, some value)
  | (name, _) => (name, none)

/-- The form of an argument. -/
def Token.ofArgument : List Char → Token
  | ['-', '-'] => .dashes
  | '-' :: '-' :: cs =>
    let (name, value) := splitValue cs
    .long name value
  | '-' :: c :: cs => .letters (c :: cs)
  | _ => .word

/-- A round that is being read. -/
structure Draft where
  /-- The parameters that are set, with their values. -/
  settled : List (Parameter × String)
  /-- The parameter whose value is not judged yet, and the value once it is there. -/
  pending : Option (Parameter × Option String)
  /-- The positional arguments still to come. -/
  positionals : List Parameter
  /-- Whether everything that follows is positional. -/
  isPlain : Bool
deriving DecidableEq, Repr

namespace Draft

/-- The start of a round. -/
def start (r : Round) : Draft := ⟨[], none, r.positionals, false⟩

/-- The value of a parameter. -/
def value? (d : Draft) (p : Parameter) : Option String := d.settled.lookup p

/-- Sets a parameter, once. -/
def put (d : Draft) (p : Parameter) (value : String) : Except UsageError Draft :=
  if (d.value? p).isSome then .error .repeatedOption
  else
    match p.objection? value with
    | some e => .error e
    | none => .ok { d with settled := d.settled ++ [(p, value)] }

/-- Judges the value that is open. -/
def settle (d : Draft) : Except UsageError Draft :=
  match d.pending with
  | none => .ok d
  | some (_, none) => .error .missingValue
  | some (p, some value) => { d with pending := none }.put p value

/-- The option that waits for its value. -/
def waiting? (d : Draft) : Option Parameter :=
  match d.pending with
  | some (p, none) => some p
  | _ => none

/-- Takes an option without a value. -/
def takeFlag (d : Draft) (p : Parameter) : Except UsageError Draft :=
  match d.settle with
  | .error e => .error e
  | .ok d =>
    match p with
    | .help => .error .help
    | .version => .error .version
    | p => d.put p ""

/-- Takes an option with the value attached to it, or lets it wait for one. -/
def takeOption (d : Draft) (p : Parameter) (value : Option (List Char)) :
    Except UsageError Draft :=
  match d.settle with
  | .error e => .error e
  | .ok d =>
    match value with
    | some v => d.put p (String.ofList v)
    | none => .ok { d with pending := some (p, none) }

/-- Takes an option by its long name. -/
def takeLong (d : Draft) (r : Round) (name : List Char) (value : Option (List Char)) :
    Except UsageError Draft :=
  match r.options.find? fun p => p.long? = some (String.ofList name) with
  | none => .error (.unknownArgument (String.ofList ('-' :: '-' :: name)))
  | some p =>
    if p.takesValue then d.takeOption p value
    else
      match value with
      | some v => .error (.surplusValue (String.ofList v))
      | none => d.takeFlag p

/-- The value attached to a letter: the rest of the argument, without an equals sign in front. -/
def attached? : List Char → Option (List Char)
  | [] => none
  | '=' :: cs => some cs
  | cs => some cs

/-- Takes options by their letters. The first one that takes a value takes the rest. -/
def takeLetters (r : Round) : List Char → Draft → Except UsageError Draft
  | [], d => .ok d
  | c :: cs, d =>
    match r.options.find? fun p => p.letter? = some c with
    | none => .error (.unknownArgument (String.ofList ['-', c]))
    | some p =>
      if p.takesValue then d.takeOption p (attached? cs)
      else
        match d.takeFlag p with
        | .error e => .error e
        | .ok d => takeLetters r cs d

/-- Takes a positional argument. -/
def takeWord (d : Draft) (r : Round) (word : String) : Except UsageError Draft :=
  match d.positionals with
  | [] => .error (r.misfit word)
  | p :: ps =>
    match d.settle with
    | .error e => .error e
    | .ok d => .ok { d with pending := some (p, some word), positionals := ps }

/-- Takes one argument that names no command. -/
def take (d : Draft) (r : Round) (arg : String) : Except UsageError Draft :=
  if d.isPlain then d.takeWord r arg
  else
    match Token.ofArgument arg.toList with
    | .dashes => .ok { d with isPlain := true }
    | .long name value => d.takeLong r name value
    | .letters cs => takeLetters r cs d
    | .word =>
      match d.waiting? with
      | some p => .ok { d with pending := some (p, some arg) }
      | none => d.takeWord r arg

/-- The verb that an argument names at this point. An argument for which an option waits, and
one after two dashes, names none. -/
def verb? (d : Draft) (r : Round) (arg : String) : Option Verb :=
  if d.isPlain || d.waiting?.isSome then none else r.verb? arg

/-- Reads arguments up to the name of a command: the draft, and the verb with what follows it. -/
def read (r : Round) (d : Draft) :
    List String → Except UsageError (Draft × Option (Verb × List String))
  | [] => .ok (d, none)
  | arg :: rest =>
    match d.verb? r arg with
    | some v => .ok (d, some (v, rest))
    | none =>
      match d.take r arg with
      | .error e => .error e
      | .ok d => read r d rest

/-- The value of a parameter that has to be set. -/
def required (d : Draft) (p : Parameter) : Except UsageError String :=
  match d.value? p with
  | some value => .ok value
  | none => .error .missingArgument

/-- The count of a parameter. -/
def count? (d : Draft) (p : Parameter) : Option Nat := (d.value? p).bind Text.count?

/-- The command of a round after its verb. -/
def command (d : Draft) : Verb → Except UsageError Command
  | .search => do
    let term ← d.required .term
    pure (.search term (d.count? .context) (d.value? .entries))
  | .context => do
    let keyword ← d.required .keyword
    let id ← d.required .id
    pure (.context keyword id (d.count? .limit))
  | .completions => do
    let shell ← d.required .shell
    match Shell.named? shell with
    | some sh => pure (.completions sh)
    | none => .error (.notAChoice shell)
  | .help => .error .help

end Draft

namespace Invocation

/-- The answer to a request for help on some commands. No command has commands of its own. -/
def helpOn : List String → UsageError
  | [] => .help
  | word :: rest =>
    if (Verb.named? word).isNone then .unknownCommand word
    else
      match rest with
      | [] => .help
      | extra :: _ => .unknownCommand extra

/-- The invocation of two rounds. -/
def ofRounds (outer inner : Draft) (command : Command) : Invocation where
  format := ((inner.value? .format).or (outer.value? .format)).bind OutputFormat.named?
  isCompact := (inner.value? .compact).isSome || (outer.value? .compact).isSome
  base := (inner.value? .base).or (outer.value? .base)
  command := command

/-- Reads the round after a verb. -/
def readInner (verb : Verb) (args : List String) : Except UsageError (Draft × Command) := do
  let (d, _) ← Draft.read (.inner verb) (.start (.inner verb)) args
  let d ← d.settle
  let command ← d.command verb
  pure (d, command)

/-- The error of a command line without a command. -/
def commandless (outer : Draft) : UsageError :=
  if outer.settled.isEmpty then .noArguments else .noCommand

/-- Reads a command line. -/
def parse (args : List String) : Except UsageError Invocation :=
  match Draft.read .outer (.start .outer) args with
  | .error e => .error e
  | .ok (_, some (.help, rest)) => .error (helpOn rest)
  | .ok (outer, some (verb, rest)) => do
    let (inner, command) ← readInner verb rest
    let outer ← outer.settle
    pure (ofRounds outer inner command)
  | .ok (outer, none) => do
    let outer ← outer.settle
    .error (commandless outer)

end Invocation

end ShardSearch
