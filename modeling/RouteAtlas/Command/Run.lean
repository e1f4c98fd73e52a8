import RouteAtlas.Command.Catalogue
import RouteAtlas.Command.Dialogue
import RouteAtlas.Search.Display

/-!
# Running commands

How the commands are carried out. Searching and listing load the stored index, and where there is
none they ask for the kind of project and discover one first; discovering asks unless it was told,
and rediscovering takes the kind of project from the stored index.

A stored index that is at fault is never replaced without being told to. Searching and listing then
end with advice to rediscover. Rediscovering goes on as if there were none: the kind of project is
all that it would have taken from it.

Faults are of three sorts, and a command treats each in its own way. What the user can mend is said,
and the command ends with the code of a failure. A wrong use ends with a code of its own, and if it
is one of options and arguments the usage of the command is shown. Everything else escapes.
-/

namespace RouteAtlas.Command

/-- How the kind of a project is found out. -/
inductive Resolver where
  | asks
  | givesUp
  deriving DecidableEq, Repr

/-- What a command works with. -/
structure App where
  root : Path
  settings : Settings
  registry : Registry := Registry.bundled
  resolver : Resolver := .asks
  /-- The time at which an index is discovered. -/
  time : Text

/-- The store of the index. -/
def App.store (app : App) : Store := ⟨app.root, app.settings⟩

open Dialogue

/-! ## Finding the backend -/

/-- The question which of the backends is right. -/
def questionLines (registry : Registry) : List Text :=
  let options := registry.backends.zipIdx.map fun (b, place) =>
    "  [".toList ++ Text.ofNat (place + 1) ++ "] ".toList ++ b.name
  [[], "No route index found.".toList, "What type of project is this?".toList, []]
    ++ options ++ [[]]

/-- Asks which of the backends is right. -/
def askForBackend (registry : Registry) : Dialogue (Option Backend) := do
  (questionLines registry).forM say
  show_ "Select option: ".toList
  match ← readLine? with
  | none => pure none
  | some answer =>
    match selected? registry.backends answer with
    | .error fault => escape (.answer fault)
    | .ok (some b) => pure (some b)
    | .ok none => do
      say "Invalid selection.".toList
      pure none

/-- The backend that the resolver finds. -/
def resolvedBackend (app : App) : Dialogue (Option Backend) :=
  match app.resolver with
  | .asks => askForBackend app.registry
  | .givesUp => pure none

/-! ## Discovering -/

/-- Says that an index was not saved. -/
def failToSave {α : Type} (fault : SaveFault) : Dialogue α :=
  fail ("Could not save route index: ".toList ++ fault.message)

/-- Says that a discovery was cancelled. -/
def failCancelled {α : Type} : Dialogue α := fail "Discovery cancelled; index not saved".toList

/-- Discovers an index with a backend and says where it was saved. -/
def discoverWith (app : App) (b : Backend) : Dialogue Unit := do
  match ← provided (← onTree (app.store.discoverAndSave b app.time)) with
  | .error (.save fault) => failToSave fault
  | .error (.discovery .cancelled) => failCancelled
  | .error fault => escape (.index fault)
  | .ok index =>
    say []
    say ("Index saved to: ".toList ++ app.store.path.text)
    say ("Total routes: ".toList ++ Text.ofNat index.routes.length)

/-- Discovers an index, for a kind of project if it is not empty. -/
def runDiscover (app : App) (project : Text) : Dialogue Unit := do
  let selected ← if project.isEmpty then resolvedBackend app else pure none
  match app.registry.choose project selected with
  | .error fault => fail fault.message
  | .ok b => discoverWith app b

/-- The kind of project of the stored index, if that can be read. A kind that no text spells is
unknown to every registry. -/
def storedProject (app : App) : Dialogue Text := do
  let tree := (← get).tree
  match app.store.load tree with
  | .ok index =>
    match CodeText.toText? index.project.framework with
    | some framework => pure framework
    | none =>
      let unknown : UnknownBackend :=
        ⟨Text.escapedCode index.project.framework, app.registry.frameworks⟩
      fail unknown.message
  | .error fault =>
    match fault with
    | .absent _ => pure []
    | _ => if fault.isCorrupt then pure [] else escape (.index (.load fault))

/-- Discovers an index anew. -/
def runRediscover (app : App) (project : Text) : Dialogue Unit := do
  runDiscover app (← if project.isEmpty then storedProject app else pure project)

/-! ## Querying -/

/-- The index that is stored, or else the one that the selected backend discovers. -/
def indexFor (app : App) (selected : Option Backend) : Dialogue Index := do
  match ← provided (← onTree (app.store.loadOrDiscover app.registry selected app.time)) with
  | .ok index =>
    match index.plain? with
    | some index => pure index
    | none => escape .unprintable
  | .error (.load fault) =>
    if fault.isCorrupt then
      fail (fault.message ++ "\nRun \x27apimap rediscover\x27 to rebuild the index.".toList)
    else escape (.index (.load fault))
  | .error (.choice .nothingSelected) =>
    fail "No route index found. Run \x27apimap discover\x27 first.".toList
  | .error (.save fault) => failToSave fault
  | .error (.discovery .cancelled) => failCancelled
  | .error fault => escape (.index fault)

/-- The index to query. -/
def loadedIndex (app : App) : Dialogue Index := do
  let isPresent ← match app.store.isPresent (← get).tree with
    | .ok isPresent => pure isPresent
    | .error fault => escape (.index (.load fault))
  indexFor app (← if isPresent then pure none else resolvedBackend app)

/-- The kind of routes that a word names. -/
def kindFilter (word : Text) : Dialogue KindFilter :=
  match KindFilter.ofWord word with
  | .ok filter => pure filter
  | .error fault => fail fault.message wrongUse

/-- Prints lines, or one that says there are none, and what stands below them. -/
def printTable (lines : List Text) (whenEmpty : String) (footer : Text) : Dialogue Unit :=
  if lines.isEmpty then say whenEmpty.toList
  else do
    lines.forM fun line => say (Text.trimEnd line)
    say []
    say footer

/-- Searches the index. -/
def runSearch (app : App) (kindWord : Text) (method query : Text) (mode : SearchMode)
    (limit : Option Int) : Dialogue Unit := do
  let kind ← kindFilter kindWord
  let index ← loadedIndex app
  match search app.settings index.routes { query, filter := { kind, method }, mode, limit } with
  | .ok outcome =>
    printTable (searchLines outcome app.settings.pathWidth) "No matches found."
      (searchFooter outcome)
  | .error fault => if fault.isOfPattern then fail fault.message wrongUse else escape (.search fault)

/-- Lists the index. -/
def runList (app : App) (kindWord method path : Text) : Dialogue Unit := do
  let kind ← kindFilter kindWord
  let index ← loadedIndex app
  let routes := listRoutes index.routes { filter := { kind, method }, path }
  printTable (listLines routes) "No routes found."
    ("Total: ".toList ++ Text.ofNat routes.length ++ " route(s)".toList)

/-! ## Reading the arguments -/

/-- Shows a manual. -/
def showManual (m : Manual) : Dialogue Unit := m.help.forM say

/-- Says that a command is not used as it should be. -/
def misused {α : Type} (m : Manual) (fault : UsageFault) : Dialogue α := do
  (m.complaint fault).forM complain
  exit wrongUse

/-- Arguments that make sense to a grammar. If all that is asked is to show something, it is
shown. -/
def readArguments (m : Manual) (g : Grammar) (arguments : List Text) : Dialogue Arguments := do
  match g.read arguments with
  | .error fault => misused m fault
  | .ok read =>
    match read.shown? with
    | some .showVersion => do
      say (programName ++ ", version ".toList ++ programVersion)
      exit 0
    | some _ => do
      showManual m
      exit 0
    | none => pure read

/-- The number given for an option, if one is. -/
def numberFor (m : Manual) (read : Arguments) (option : OptionSpec) : Dialogue (Option Int) := do
  match read.last? option, option.kind with
  | some value, .atLeast least =>
    match Text.integer? value with
    | none =>
      misused m (.invalidValue option (Text.quoted value ++ " is not a valid integer range.".toList))
    | some n =>
      if n < least then
        misused m (.invalidValue option
          (Text.ofInt n ++ " is not in the range ".toList ++ (option.kind.range?.getD []) ++ ['.']))
      else pure (some n)
  | _, _ => pure none

/-- What stands at a path that was typed, from a directory on. -/
def typedEntry? (tree : FileTree) (base : Path) (typed : Text) : Option Entry :=
  let start := if typed.head? = some '/' then [] else base.names
  match tree.follow .followed FileTree.linkLimit [] (start ++ typed.splitOn '/') with
  | .ok (.taken _ entry) => if typed.isEmpty then none else some entry
  | _ => none

/-- The directory given for an option, if one is, from a directory on. -/
def directoryFor (m : Manual) (read : Arguments) (option : OptionSpec) (base : Path) :
    Dialogue (Option Path) := do
  match read.last? option with
  | none => pure none
  | some typed =>
    let named := "Directory ".toList ++ Text.quoted typed
    match typedEntry? (← get).tree base typed with
    | none => misused m (.invalidValue option (named ++ " does not exist.".toList))
    | some .directory => pure (some (base.join (Path.ofText typed)))
    | some _ => misused m (.invalidValue option (named ++ " is a file.".toList))

/-- Carries out a verb. -/
def Verb.run (v : Verb) (app : App) (arguments : List Text) : Dialogue Unit := do
  let m := v.manual
  let read ← readArguments m v.grammar arguments
  let limit ← numberFor m read Options.limit
  let excess := read.rest.drop v.operandCount
  if !excess.isEmpty then misused m (.unexpected excess)
  let text := fun option => (read.last? option).getD []
  match v with
  | .discover => runDiscover app (text Options.project)
  | .rediscover => runRediscover app (text Options.project)
  | .help => showManual programManual
  | .list => runList app (text Options.kind) (text Options.listMethod) (text Options.path)
  | .search =>
    let mode := if read.isOn Options.regex then .literal else .fuzzy
    runSearch app (text Options.kind) (text Options.searchMethod) (read.rest.headD []) mode limit

/-- The canonical form of a path. -/
def canonicalPath (path : Path) : Dialogue Path := do
  match (← get).tree.canonical path with
  | .ok path => pure path
  | .error fault => escape (.looping fault)

/-- The repository that arguments name, or else the working directory. -/
def repositoryOf (base : Path) (arguments : List Text) : Path :=
  match programGrammar.read arguments with
  | .ok read => ((read.last? Options.root).map fun typed => base.join (Path.ofText typed)).getD base
  | .error _ => base

/-- Carries out the program with arguments, in a working directory. -/
def runProgram (app : App) (base : Path) (arguments : List Text) : Dialogue Unit := do
  if arguments.isEmpty then do
    programManual.help.forM complain
    exit wrongUse
  let read ← readArguments programManual programGrammar arguments
  let root ← directoryFor programManual read Options.root base
  match read.rest with
  | [] => misused programManual .missingCommand
  | first :: rest => do
    let app := { app with root := ← canonicalPath (root.getD app.root) }
    match Verb.ofName? first with
    | some v => v.run app rest
    | none => Verb.search.run app (first :: rest)

end RouteAtlas.Command
