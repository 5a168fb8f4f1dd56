/-
The whole program as a function: from arguments, files, network and environment to what it prints and
how it ends.

The files are a function too. What the program looks at is listed by `Program.paths`, which needs
only the contents of the files listed before; so whoever runs the program can supply files one by
one until the list holds nothing new.
-/
import ShardSearch.Command.Arguments
import ShardSearch.Command.Context

namespace ShardSearch

/-- How the program ends. -/
inductive Status where
  | success
  /-- The command failed. -/
  | failure
  /-- The command line was refused. -/
  | misuse
deriving DecidableEq, Repr

/-- The exit code of a status. -/
def Status.code : Status → UInt32
  | .success => 0
  | .failure => 1
  | .misuse => 2

/-- What a run of the program leaves: its status and what it printed on both channels. -/
structure Exit where
  status : Status
  output : String
  errors : String
deriving DecidableEq, Repr

namespace Program

/-- The name of the program with its version. -/
def versionText : String := "sitesearch 0.3.1\n"

/-- The overview of commands and options. -/
def helpText : String :=
  "Incremental keyword search over a published site index\n\n" ++
  "Usage: sitesearch [OPTIONS] <COMMAND>\n\n" ++
  "Commands:\n" ++
  "  search <TERM>           Look up a keyword [aliases: s, find]\n" ++
  "  context <KEYWORD> <ID>  Show paragraphs of one document [aliases: ctx]\n" ++
  "  completions <SHELL>     Generate shell completions\n" ++
  "  help                    Print this message\n\n" ++
  "Options:\n" ++
  "      --format <FORMAT>   Output format: text or json\n" ++
  "      --compact           JSON on one line\n" ++
  "  -b, --base <BASE>       URL or directory of the index\n" ++
  "  -C, --context <COUNT>   With search: paragraphs for each exact match\n" ++
  "  -e, --entries <FILE>    With search: entry list that labels the results\n" ++
  "  -n, --limit <COUNT>     With context: number of paragraphs\n" ++
  "  -h, --help              Print this message\n" ++
  "  -V, --version           Print the version\n"

/-- The end of a run that was refused, or that only asked for a text. -/
def refuse : UsageError → Exit
  | .help => ⟨.success, helpText, ""⟩
  | .version => ⟨.success, versionText, ""⟩
  | .noArguments => ⟨.misuse, "", helpText⟩
  | e => ⟨.misuse, "", "error: " ++ e.message ++ "\n"⟩

/-- The end of a command. -/
def finish : Except CommandError String → Exit
  | .ok output => ⟨.success, output, ""⟩
  | .error e => ⟨.failure, "", e.report⟩

/-- How an invocation is shown: its own format wins over the one of the settings. -/
def presentation (settings : Settings) (display : Display) (i : Invocation) : Presentation :=
  ⟨(i.format.or settings.format?).getD .text, i.isCompact, display⟩

/-- Carries out an invocation. Completion scripts are not part of this library, so that command
prints nothing. -/
def perform (files : Files) (network : Network) (settings : Settings) (display : Display)
    (i : Invocation) : Exit :=
  let p := presentation settings display i
  match i.command with
  | .search term context entries =>
    finish (SearchRequest.run ⟨term, i.base, context, entries⟩ files network settings p)
  | .context keyword id limit =>
    finish (ContextRequest.run ⟨keyword, ⟨id⟩, i.base, limit⟩ files network settings p)
  | .completions _ => ⟨.success, "", ""⟩

/-- Runs the program. -/
def run (files : Files) (network : Network) (home : Option String) (env : Environment)
    (args : List String) : Exit :=
  match Invocation.parse args with
  | .error e => refuse e
  | .ok i => perform files network (Settings.load files home) (.ofEnvironment env) i

/-- The files that an invocation looks at beside the settings. -/
def pathsOf (files : Files) (network : Network) (settings : Settings) (i : Invocation) : List String :=
  match i.command with
  | .search term context entries =>
    SearchRequest.paths ⟨term, i.base, context, entries⟩ files network settings
  | .context keyword id limit => ContextRequest.paths ⟨keyword, ⟨id⟩, i.base, limit⟩ settings
  | .completions _ => []

/-- The files that the program looks at. -/
def paths (files : Files) (network : Network) (home : Option String) (args : List String) : List String :=
  match Invocation.parse args with
  | .error _ => []
  | .ok i => Settings.paths home ++ pathsOf files network (Settings.load files home) i

end Program

end ShardSearch
