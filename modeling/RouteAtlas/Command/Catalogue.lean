import RouteAtlas.Command.Manual

/-!
# The commands

The commands of the program with their options. An argument that names no command is a pattern to
search for.

Commands that ask the same thing share the option for it; where they word it differently, the
summary alone is replaced. The manuals are put together from these descriptions, and so are the
grammars by which arguments are read, so that help cannot name an option that is not understood.
-/

namespace RouteAtlas.Command

/-- The name of the program. -/
def programName : Text := "apimap".toList

/-- The version of the program. -/
def programVersion : Text := "1.0.0".toList

namespace Options

/-- Shows the version. -/
def version : OptionSpec where
  long := "version".toList
  kind := .showVersion
  summary := "Show the version and exit.".toList

/-- The repository. -/
def root : OptionSpec where
  long := "root".toList
  kind := .directory
  summary := "Repository root (default: current directory)".toList

/-- Logs more. -/
def verbose : OptionSpec where
  short := some 'v'
  long := "verbose".toList
  kind := .switch
  summary := "Enable debug logging".toList

/-- The kind of routes. -/
def kind : OptionSpec where
  short := some 't'
  long := "type".toList
  kind := .text
  summary := "Record type: c/controller or e/endpoint".toList

/-- The HTTP method that a search is for. -/
def searchMethod : OptionSpec where
  short := some 'm'
  long := "method".toList
  kind := .text
  summary := "HTTP method filter (implies endpoints)".toList

/-- The HTTP method that is listed. -/
def listMethod : OptionSpec := { searchMethod with summary := "HTTP method filter".toList }

/-- How many results are shown. -/
def limit : OptionSpec where
  short := some 'l'
  long := "limit".toList
  kind := .atLeast 1
  summary := "Maximum number of results".toList

/-- The pattern is a regular expression. -/
def regex : OptionSpec where
  short := some 'r'
  long := "regex".toList
  kind := .switch
  summary := "Treat PATTERN as a case-insensitive regex".toList

/-- A part of the paths. -/
def path : OptionSpec where
  short := some 'p'
  long := "path".toList
  kind := .text
  summary := "Case-insensitive path substring".toList

/-- The kind of project. -/
def project : OptionSpec where
  short := some 't'
  long := "type".toList
  kind := .text
  summary := "Project type (e.g. aspnet, python)".toList

end Options

/-- What the program can be told to do. -/
inductive Verb where
  | discover
  | help
  | list
  | rediscover
  | search
  deriving DecidableEq, Repr

namespace Verb

/-- All verbs, in the order of their names. -/
def all : List Verb := [.discover, .help, .list, .rediscover, .search]

/-- The name of a verb. -/
def name : Verb → Text
  | .discover => "discover".toList
  | .help => "help".toList
  | .list => "list".toList
  | .rediscover => "rediscover".toList
  | .search => "search".toList

/-- The verb with a name. -/
def ofName? (name : Text) : Option Verb := all.find? (·.name == name)

/-- What a verb does, in one line. -/
def summary : Verb → Text
  | .discover => "Discover routes and write the index.".toList
  | .help => "Show this message.".toList
  | .list => "List indexed routes sorted by path and method.".toList
  | .rediscover => "Rebuild the index from scratch.".toList
  | .search => "Search routes for PATTERN.".toList

/-- What else there is to say about a verb. -/
def details : Verb → List Text
  | .rediscover =>
    ["Without --type, reuses the framework recorded in the existing index when it".toList,
     "can be read.".toList]
  | .search =>
    ["Fuzzy mode scores paths segment by segment (e.g. \"settings id\" finds".toList,
     "/api/settings/\x7bid\x7d); controllers and actions are matched by name.".toList]
  | _ => []

/-- The options of a verb. -/
def options : Verb → List OptionSpec
  | .discover | .rediscover => [Options.project]
  | .help => []
  | .list => [Options.listMethod, Options.path, Options.kind]
  | .search => [Options.kind, Options.searchMethod, Options.limit, Options.regex]

/-- A verb takes at most this many arguments besides its options. -/
def operandCount : Verb → Nat
  | .search => 1
  | _ => 0

/-- What may follow the name of a verb. -/
def operands (v : Verb) : Text :=
  "[OPTIONS]".toList ++ if v.operandCount = 0 then [] else " [PATTERN]".toList

/-- The manual of a verb. -/
def manual (v : Verb) : Manual where
  path := programName ++ ' ' :: v.name
  operands := v.operands
  paragraphs := [v.summary] :: if v.details.isEmpty then [] else [v.details]
  options := v.options ++ [helpOption]

end Verb

/-- The manual of the program. -/
def programManual : Manual where
  path := programName
  operands := "[OPTIONS] COMMAND [ARGS]...".toList
  paragraphs :=
    [["Find HTTP routes in a codebase by fuzzy or regex search.".toList],
     ["apimap PATTERN        shorthand for \x27apimap search PATTERN\x27".toList]]
  options := [Options.version, Options.root, Options.verbose, helpOption]
  commands := Verb.all.map fun v => (v.name, v.summary)

/-- How the arguments of the program itself are read: up to the first one that is no option, and
options it does not know are left to the command. -/
def programGrammar : Grammar where
  options := programManual.options
  interspersed := false
  lenient := true

/-- How the arguments of a verb are read. -/
def Verb.grammar (v : Verb) : Grammar := { options := v.manual.options }

end RouteAtlas.Command
