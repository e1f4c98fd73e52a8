import RouteAtlas.Controllers.Routes
import RouteAtlas.Controllers.Scan
import RouteAtlas.Discovery.Source

/-!
# Scanning for controllers

A repository has projects: the directories that hold a project file. The sources of a project are
those below it that do not lie in a project further down. A project with a source that cannot be
read is reported and contributes nothing. Within a project the routes of all controllers come first,
then the endpoints of one controller after the other.

Every project walks over all that lies below it and passes over the files of projects further down,
so a file of a nested project is met more than once and read once. Only faults that concern the
project alone are recovered from (`DiscoveryFault.isPartial`); a walk that breaks off ends the whole
scan, wherever it was.
-/

namespace RouteAtlas.Controllers

/-- The endings of project files. -/
def projectFiles : Source.Wanted := { suffixes := [".csproj".toList] }

/-- The endings of source files. -/
def sourceFiles : Source.Wanted := { suffixes := [".cs".toList] }

/-- The project directories, in order. -/
def projectsOf (files : List Path) : List Path :=
  ((files.map Path.parent).mergeSort Path.le).eraseReps

/-- A file lies in a project further down than `project`. -/
def isNested (projects : List Path) (project file : Path) : Bool :=
  projects.any fun other => project.isAncestor other && other.isAncestor file

/-- The classes of a source file, unless the file belongs to a project further down. -/
def scanFile (tree : FileTree) (projects : List Path) (project file : Path) :
    Scan (List ClassDecl) := do
  Scan.check
  if isNested projects project file then pure []
  else do
    let source ← Scan.ofExcept (Source.read tree file)
    pure (classesOf source file)

/-- The routes of a controller: its own one, and those of its endpoints. -/
def routesOfController (tree : FileTree) (root : Path) (c : ClassDecl) :
    Scan (Discovered × List Discovered) := do
  let file ← Scan.ofExcept (Source.relative tree root c.file)
  pure (c.controllerRoute file, c.endpoints file)

/-- Reports the endpoints of a controller, if it has any. -/
def reportEndpoints (c : ClassDecl) (endpoints : List Discovered) : Scan Unit :=
  if endpoints.isEmpty then pure ()
  else
    Scan.report ("      ".toList ++ c.name ++ ": ".toList ++ Text.ofNat endpoints.length
      ++ " route(s)".toList)

/-- Scans one project. -/
def scanProject (tree : FileTree) (root : Path) (projects : List Path) (project : Path) :
    Scan (List Discovered) := do
  Scan.report ("  Scanning: ".toList ++ project.name)
  let classes ← Source.forEach tree project sourceFiles (scanFile tree projects project)
  let controllers := findControllers classes.flatten
  Scan.report
    ("    Found ".toList ++ Text.ofNat controllers.length ++ " controller(s)".toList)
  let groups ← controllers.mapM (routesOfController tree root)
  (controllers.zip (groups.map (·.2))).forM fun (c, endpoints) => reportEndpoints c endpoints
  pure (groups.map (·.1) ++ groups.flatMap (·.2))

/-- The name of a project in messages: where it is, or how the repository is called. -/
def projectName (tree : FileTree) (root project : Path) : Except DiscoveryFault Text :=
  if project = root then .ok project.name else Source.relative tree root project

/-- Scans one project, or reports that it was passed over. -/
def scanProjectOrSkip (tree : FileTree) (root : Path) (projects : List Path) (project : Path) :
    Scan (List Discovered) := do
  Scan.check
  let name ← Scan.ofExcept (projectName tree root project)
  match ← (scanProject tree root projects project).attempt with
  | .ok routes => pure routes
  | .error fault =>
    Scan.report ("  Skipped ".toList ++ name ++ ": ".toList ++ fault.message)
    pure []

/-- Scans all projects below a directory. -/
def discover (tree : FileTree) (root : Path) : Scan (List Discovered) := do
  Scan.report "Discovering ASP.NET routes...".toList
  let files ← Scan.ofExcept (Source.files tree root projectFiles)
  if files.isEmpty then do
    Scan.report "No .sln or .csproj files found.".toList
    pure []
  else do
    let projects := projectsOf files
    let routes := (← projects.mapM (scanProjectOrSkip tree root projects)).flatten
    Scan.report ("Discovered ".toList ++ Text.ofNat routes.length ++ " route(s).".toList)
    pure routes

end RouteAtlas.Controllers
