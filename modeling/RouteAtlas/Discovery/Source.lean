import RouteAtlas.Discovery.Scan
import RouteAtlas.Files.Write
import RouteAtlas.Text.Blank

/-!
# Source files

How the source files below a directory are come by, and what is read of them. A walk takes up the
entries of a directory by name. A directory is entered, unless its name is ignored or it is a link;
anything else with one of the endings that are looked for is a source file, also a link that leads
nowhere. An entry cannot be looked up if its path is too long, or a name that its link leads on to;
there the walk breaks off.

A discovery either needs all source files before it goes on (`files`), or it works on each of them
as the walk comes to it (`forEach`). In both cases a walk that breaks off ends the discovery, in the
second one behind the work that was done by then.
-/

namespace RouteAtlas.Source

/-- The names of directories that hold no sources of the repository's own. -/
def ignoredDirectories : List Text :=
  [".git", ".hg", ".svn", ".apimap", ".idea", ".vs", ".vscode", "node_modules", "bin", "obj",
   "__pycache__", ".venv", "venv", "env", ".tox", ".nox", ".mypy_cache", ".pytest_cache", "build",
   "dist", "site-packages"].map String.toList

/-- What a scan looks for. -/
structure Wanted where
  suffixes : List Text
  ignored : List Text := ignoredDirectories

/-- What a walk comes to below a directory, by the names that lead there: source files, and entries
that cannot be looked up. -/
def visits (t : FileTree) (wanted : Wanted) (path : Path) (place : Place) :
    List (Except FileFault (List Text)) :=
  (t.listing place).attach.flatMap fun ⟨name, _⟩ =>
    match t.status? (path.child name) with
    | .error fault => [.error fault]
    | .ok (some .directory) =>
      if wanted.ignored.contains name || (t.get? (place ++ [name])).any Entry.isLink then []
      else (visits t wanted (path.child name) (place ++ [name])).map (Except.map (name :: ·))
    | .ok _ => if wanted.suffixes.contains (Path.suffixOf name) then [.ok [name]] else []
termination_by t.depth - place.length
decreasing_by
  have hlength := FileTree.length_lt_depth_of_mem_listing ‹_›
  rw [List.length_append, List.length_singleton]
  omega

/-- What a walk has found, and why it has broken off if it has. -/
structure Walk where
  files : List Path
  fault : Option FileFault
  deriving DecidableEq, Repr

/-- The walk from a directory that comes to the given entries, one after the other. -/
def Walk.ofVisits (root : Path) : List (Except FileFault (List Text)) → Walk
  | [] => ⟨[], none⟩
  | .error fault :: _ => ⟨[], some fault⟩
  | .ok names :: rest =>
    let walk := ofVisits root rest
    { walk with files := root.below names :: walk.files }

/-- A walk from a directory. -/
def walk (t : FileTree) (root : Path) (wanted : Wanted) : Except DiscoveryFault Walk := do
  match ← (t.status root).mapError (.unlisted root) with
  | (place, .directory) => pure (.ofVisits root (visits t wanted root place))
  | _ => throw (.unlisted root { reason := .notDirectory, path := root })

/-- A walk that breaks off ends what it is made for. -/
def Walk.finish (w : Walk) : Except DiscoveryFault Unit :=
  match w.fault with
  | none => pure ()
  | some fault => throw (.unlookable fault)

/-- The source files below a directory. -/
def files (t : FileTree) (root : Path) (wanted : Wanted) : Except DiscoveryFault (List Path) := do
  let w ← walk t root wanted
  w.finish
  pure w.files

/-- Work on the source files below a directory, on each when the walk comes to it. -/
def forEach {α : Type} (t : FileTree) (root : Path) (wanted : Wanted) (work : Path → Scan α) :
    Scan (List α) := do
  let w ← Scan.ofExcept (walk t root wanted)
  let found ← w.files.mapM work
  Scan.ofExcept w.finish
  pure found

/-- The text of a source file. A byte order mark at its beginning is no part of it, and all line
ends are line feeds. -/
def read (tree : FileTree) (path : Path) : Except DiscoveryFault Text := do
  let bytes ← (Files.read tree path).mapError (.unread path)
  let text ← (Utf8.decodeMarked bytes).mapError (.undecoded path)
  pure (Text.unifyNewlines text)

/-- A source file as seen from the root of its repository. -/
def relative (tree : FileTree) (root path : Path) : Except DiscoveryFault Text := do
  pure (← (tree.seenFrom root path).mapError .looping).text

end RouteAtlas.Source
