import RouteAtlas.Files.Follow

/-!
# Reading and writing files

Reading leaves the tree as it is. Writing replaces a file as a whole: the new contents go to a
temporary file first, which then takes its place. If anything fails on the way, the temporary
file is removed and what stood there stays; directories that had to be made stay too.

The steps are kept apart because each can fail for reasons of its own: making the directories above
the file, finding out the permissions that the file shall have, making the temporary file beside it,
producing the contents, and renaming. A file that is replaced keeps its permissions, and a new one
gets what the mask of the process leaves of reading and writing for all.

Renaming works on the path as it is named. A link there is replaced and not followed, even one that
the way to the temporary file led through.
-/

namespace RouteAtlas

/-- Work on a file tree that can fail, with what the tree is afterwards in either case. -/
abbrev Filing (Fault : Type) := ExceptT Fault (StateM FileTree)

namespace Files

/-- The permissions of a new file. -/
def newMode (tree : FileTree) : Nat := (0o666 &&& ~~~tree.umask).toNat

/-- The permissions of a directory, as they are when it is new. -/
def directoryMode (tree : FileTree) : Nat := (0o777 &&& ~~~tree.umask).toNat

/-- The contents of a file. -/
def read (tree : FileTree) (path : Path) : Except FileFault Bytes := do
  match ← tree.status path with
  | (_, .file contents _) => pure contents
  | (_, .directory) => throw { reason := .isDirectory, path }
  | (_, .link _) => throw { reason := .tooManyLinks, path }

/-- The names in a directory, in order. -/
def namesIn (tree : FileTree) (path : Path) : Except FileFault (List Text) := do
  match ← tree.status path with
  | (place, .directory) =>
    let names := (tree.below place).filterMap fun (names, _) =>
      match names with
      | [name] => some name
      | _ => none
    pure (names.mergeSort Text.le)
  | _ => throw { reason := .notDirectory, path }

/-- Makes a directory where nothing stands. -/
def makeDirectory (path : Path) : Filing FileFault Unit := do
  let tree ← get
  match tree.locate path .kept with
  | .error fault => throw fault
  | .ok (.taken ..) => throw { reason := .existing, path }
  | .ok (.vacant directory name) => set (tree.put (directory ++ [name]) .directory)

/-- Makes a directory, unless there is one already. Whether there is one is asked only if it was not
made, and this may fail for a reason of its own. -/
def makeOwnDirectory (path : Path) : Filing FileFault Unit :=
  tryCatch (makeDirectory path) fun fault => do
    if fault.reason = .missing then throw fault
    else match (← get).status? path with
      | .error problem => throw problem
      | .ok (some .directory) => pure ()
      | .ok _ => throw fault

/-- Makes a directory and those above it, as far as they are missing. -/
def ensureDirectory (path : Path) : Filing FileFault Unit :=
  tryCatch (makeOwnDirectory path) fun fault => do
    if _h : path.names = [] then throw fault
    else if fault.reason = .missing then do
      ensureDirectory path.parent
      makeOwnDirectory path
    else throw fault
termination_by path.names.length
decreasing_by
  have := List.length_pos_iff.2 _h
  simp only [Path.parent, List.length_dropLast]
  omega

/-- The name of the `n`-th candidate for a temporary file beside a file. -/
def temporaryName (name : Text) (n : Nat) : Text :=
  let digits := Text.ofNat n
  '.' :: name ++ '.' :: List.replicate (8 - digits.length) '0' ++ digits ++ ".tmp".toList

/-- The first candidate for a temporary file that is no name in its directory yet. -/
def freshName (tree : FileTree) (directory : Place) (name : Text) : Text :=
  let candidates := (List.range (tree.entries.length + 1)).map (temporaryName name)
  (candidates.find? fun candidate => (tree.get? (directory ++ [candidate])).isNone).getD
    (temporaryName name 0)

/-- The permissions that a file shall have when it is replaced. -/
def modeFor (tree : FileTree) (path : Path) : Except FileFault Nat :=
  match tree.status path with
  | .ok (_, .file _ mode) => .ok (mode % 0o1000)
  | .ok (_, .directory) => .ok (directoryMode tree)
  | .ok (_, .link _) => .ok (newMode tree)
  | .error fault => if fault.reason = .missing then .ok (newMode tree) else .error fault

/-- Gives what stands at `from_` the place where `path` leads. A link there is replaced, not
followed. -/
def rename (from_ : Place) (named path : Path) (entry : Entry) : Filing FileFault Unit := do
  let tree ← get
  let fault := fun reason => ({ reason, path := named, renamed := some path } : FileFault)
  if path.names.isEmpty || FileTree.isAbove path.name then throw (fault .busy)
  match tree.locate path .kept with
  | .error problem => throw (fault problem.reason)
  | .ok (.taken _ .directory) => throw (fault .isDirectory)
  | .ok (.taken place _) => set ((tree.erase from_).put place entry)
  | .ok (.vacant directory name) => set ((tree.erase from_).put (directory ++ [name]) entry)

/-- The directory in which temporary files are made for a path: the one above it, where two dots
take back the name before them without regard to what that name leads to. -/
def temporaryHome (path : Path) : Path := ⟨path.root, Path.collapse [] path.parent.names⟩

/-- The path of a new temporary file for a path. -/
def temporaryPath (tree : FileTree) (path : Path) : Path :=
  let home := temporaryHome path
  let directory := match tree.status home with
    | .ok (place, _) => place
    | .error _ => []
  home.child (freshName tree directory path.name)

/-- Makes a new file that is to take the place of another one; its path and where it stands. -/
def makeTemporary (path : Path) (mode : Nat) : Filing FileFault (Path × Place) := do
  let tree ← get
  let named := temporaryPath tree path
  match tree.locate named .kept with
  | .error fault => throw fault
  | .ok (.taken ..) => throw { reason := .existing, path := named }
  | .ok (.vacant directory name) =>
    set (tree.put (directory ++ [name]) (.file [] mode))
    pure (named, directory ++ [name])

/-- Replaces a file by one with other contents, or makes it. The contents may turn out not to be
writable only when the temporary file is there. -/
def replace {Fault : Type} (unusable : FileFault → Fault) (path : Path)
    (contents : Except Fault Bytes) : Filing Fault Unit := do
  let lifted := fun {α : Type} (work : Filing FileFault α) =>
    (ExceptT.adapt unusable work : Filing Fault α)
  lifted (ensureDirectory path.parent)
  let mode ← lifted (modeFor (← get) path)
  let (named, place) ← lifted (makeTemporary path mode)
  tryCatch
    (do
      let bytes ← contents
      lifted (rename place named path (.file bytes mode)))
    fun fault => do
      modify (·.erase place)
      throw fault

end Files

end RouteAtlas
