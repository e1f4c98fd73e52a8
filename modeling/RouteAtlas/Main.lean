import RouteAtlas.Command.Run
import RouteAtlas.Settings.Environment
import RouteAtlas.Timestamp
import Std.Time.DateTime.Timestamp

/-!
# The program

Reads the part of the file system that matters into a tree, carries out the command on it, and
writes back the files that have changed. If something is to be typed, the command is carried out
once without it, which prints everything up to the question, and then again with the answer.

This is the only module that touches the world outside. It decides nothing: which entries are read
follows from what scans look for, and what is printed and written is taken from the reply and the
tree that it leaves.
-/

namespace RouteAtlas.Program

/-- A place as a path of the operating system. -/
def pathText (place : Place) : String := String.ofList ('/' :: Text.joinWith ['/'] place)

/-- A place as an entry of the directory above it. -/
def entryAt (place : Place) : IO.FS.DirEntry :=
  ⟨pathText place.dropLast, String.ofList (place.getLastD [])⟩

/-- The endings of the files whose contents a scan may need. -/
def readEndings : List Text :=
  Routers.scripts.suffixes ++ Controllers.sourceFiles.suffixes ++ Controllers.projectFiles.suffixes

/-- What stands at a place, with the contents of a file if they are needed. -/
def readEntry (place : Place) (withContents : Bool) : IO (Option Entry) := do
  let entry := entryAt place
  match ← entry.path.symlinkMetadata.toBaseIO with
  | .error _ => return none
  | .ok found =>
    match found.type with
    | .dir => return some .directory
    | .symlink =>
      match ← (IO.FS.realPath entry.path).toBaseIO with
      | .ok target => return some (.link target.toString.toList)
      | .error _ => return some (.link (place.getLastD [] ++ ".target".toList))
    | .file =>
      if withContents then
        match ← (IO.FS.readBinFile entry.path).toBaseIO with
        | .ok bytes => return some (.file bytes.toList (Files.newMode {}))
        | .error _ => return none
      else return some (.file [] (Files.newMode {}))
    | .other => return none

/-- What stands at the places that lead to a place, and there. -/
def readAlong (place : Place) : IO (List (Place × Entry)) := do
  let mut rows := []
  for count in List.range place.length do
    let at_ := place.take (count + 1)
    if let some entry ← readEntry at_ (at_ == place) then rows := (at_, entry) :: rows
  return rows

/-- What stands below a directory, without the directories that are never scanned and the files that
are no sources. What links lead to is added. -/
partial def readBelow (place : Place) : IO (List (Place × Entry)) := do
  let .ok children ← (entryAt (place ++ [['.']])).path.readDir.toBaseIO | return []
  let mut rows := []
  for child in children do
    let name := child.fileName.toList
    let at_ := place ++ [name]
    let isSource := readEndings.contains (Path.suffixOf name)
    match ← readEntry at_ isSource with
    | some .directory =>
      if !Source.ignoredDirectories.contains name then
        rows := (at_, .directory) :: (← readBelow at_) ++ rows
    | some (.link target) =>
      rows := (at_, .link target) :: (← readAlong (Path.ofText target).names) ++ rows
    | some entry => if isSource then rows := (at_, entry) :: rows
    | none => pure ()
  return rows

/-- The part of the file system that matters to a repository. -/
def readTree (root index : Path) : IO FileTree := do
  let rows := (← readAlong index.names) ++ (← readAlong root.names) ++ (← readBelow root.names)
  return rows.foldl (fun tree (place, entry) => tree.put place entry) {}

/-- Writes a file beside its place and then puts it there. -/
def writeFile (tree : FileTree) (place : Place) (contents : Bytes) : IO Unit := do
  let name := Files.freshName tree place.dropLast (place.getLastD [])
  let temporary := pathText (place.dropLast ++ [name])
  IO.FS.writeBinFile temporary ⟨contents.toArray⟩
  IO.FS.rename temporary (pathText place)

/-- Writes what has changed. -/
def writeBack (old new : FileTree) : IO Unit := do
  let changed := new.entries.filter fun (place, entry) => old.get? place != some entry
  for (place, entry) in changed.mergeSort fun a b => a.1.length ≤ b.1.length do
    match entry with
    | .directory => IO.FS.createDirAll (pathText place)
    | .file contents _ => writeFile new place contents
    | .link _ => pure ()

/-- The settings that the environment and a file in the working directory give. -/
def readSettings : IO (Checked Settings) := do
  let mut given := []
  for field in Settings.fieldNames do
    let name := (Settings.variableStart ++ field.toList).map Char.toUpper
    if let some value ← IO.getEnv (String.ofList name) then
      given := (⟨name, some value.toList⟩ : Assignments.Binding) :: given
  let file ← (IO.FS.readFile ".env").toBaseIO
  return Settings.ofSources [] given (file.toOption.getD "").toList

/-- Carries out the program. -/
def run (settings : Settings) (arguments : List Text) : IO UInt32 := do
  let base := Path.ofText (← IO.currentDir).toString.toList
  let now ← Std.Time.Timestamp.now
  let micros := (now.toNanosecondsSinceUnixEpoch.val / 1000).toNat
  let app : Command.App :=
    { root := base, settings, time := (Timestamp.ofMicroseconds micros).text }
  let root := Command.repositoryOf base arguments
  let tree ← readTree root (settings.indexPath root)
  let program := Command.runProgram app base arguments
  let (question, _) := program.reply tree []
  let out ← IO.getStdout
  let (reply, after) ←
    if question.asked then do
      out.putStr (String.ofList question.output)
      out.flush
      let answer ← (← IO.getStdin).getLine
      pure (program.reply tree answer.toList)
    else pure (program.reply tree [])
  writeBack tree after
  let shown := if question.asked then question.output.length else 0
  out.putStr (String.ofList (reply.output.drop shown))
  out.flush
  (← IO.getStderr).putStr (String.ofList reply.errors)
  match reply.outcome with
  | .ok code => return code.toUInt32
  | .error fault =>
    (← IO.getStderr).putStrLn (String.ofList fault.message)
    return 1

end RouteAtlas.Program

/-- Carries out the program with the arguments of the command line. -/
def main (arguments : List String) : IO UInt32 := do
  match ← RouteAtlas.Program.readSettings with
  | .ok settings => RouteAtlas.Program.run settings (arguments.map String.toList)
  | .error faults =>
    (← IO.getStderr).putStrLn s!"{faults.length} invalid setting(s)"
    return 1
