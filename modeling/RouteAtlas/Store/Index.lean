import RouteAtlas.Document.Index
import RouteAtlas.Json.Value
import RouteAtlas.Settings.Basic
import RouteAtlas.Store.Document

/-!
# The store of an index

The index of a repository is kept as one document in a file of the repository. Only an index of the
current version is read back. What was saved replaces what was there before, or nothing changes.

What is loaded goes through four hands: the file, the document in it, its version, and its fields.
The version is looked at before the fields, so that an index of another version is reported as such
whatever else it holds. Whether a file of the index is there is asked beforehand, and a directory in
its place counts as no index.
-/

namespace RouteAtlas

/-- Where the index of a repository is kept. -/
structure Store where
  root : Path
  settings : Settings

/-- Why an index was not loaded. -/
inductive LoadFault where
  | absent (path : Path)
  | document (fault : DocumentFile.ReadFault)
  | notObject (path : Path)
  | wrongVersion (found : Json)
  | invalid (path : Path) (faults : List Fault)

namespace LoadFault

/-- There is an index, and it is at fault. -/
def isCorrupt : LoadFault → Bool
  | .absent _ => false
  | .document fault => fault.isOfFile
  | _ => true

/-- What is said of an index that was not loaded. -/
def message : LoadFault → Text
  | .absent path => "No route index at ".toList ++ path.text
  | .document fault => fault.message
  | .notObject path => "Route index ".toList ++ path.text ++ " is not a JSON object".toList
  | .wrongVersion found =>
    "Unsupported index schema version: ".toList ++ found.quoted ++ " (expected ".toList
      ++ Text.ofInt schemaVersion ++ [')']
  | .invalid path faults =>
    "Route index ".toList ++ path.text ++ " failed validation: ".toList
      ++ Text.ofNat faults.length ++ " error(s)".toList

end LoadFault

/-- Why an index was not saved. -/
structure SaveFault where
  path : Path
  cause : DocumentFile.WriteFault
  deriving DecidableEq, Repr

/-- What is said of an index that was not saved. -/
def SaveFault.message (fault : SaveFault) : Text := fault.cause.message fault.path

namespace Store

/-- The file of the index. -/
def path (store : Store) : Path := store.settings.indexPath store.root

/-- There is a file of the index. -/
def isPresent (store : Store) (tree : FileTree) : Except LoadFault Bool := do
  match ← (tree.status? store.path).mapError fun fault => .document (.unlocatable fault) with
  | some (.file ..) => pure true
  | _ => pure false

/-- The value is the number of the current version. -/
def isCurrentVersion : Json → Bool
  | .int n => n == schemaVersion
  | .float x => x.toInt? == some schemaVersion
  | _ => false

/-- The index that a document spells. -/
def ofDocument (path : Path) (document : Json) : Except LoadFault (Index CodePoint) :=
  match document with
  | .obj _ =>
    let version := (document.get? "version").getD .null
    if isCurrentVersion version then (Decode.index document).mapError (.invalid path)
    else .error (.wrongVersion version)
  | _ => .error (.notObject path)

/-- The stored index. -/
def load (store : Store) (tree : FileTree) : Except LoadFault (Index CodePoint) := do
  if !(← store.isPresent tree) then throw (.absent store.path)
  ofDocument store.path (← (DocumentFile.read tree store.path).mapError .document)

/-- How an index is laid out. -/
def layout : Json.Layout := { indent := some 2 }

/-- Stores an index instead of what was stored. -/
def save (store : Store) (index : Index CodePoint) : Filing SaveFault Unit :=
  (DocumentFile.write layout store.path (Encode.index index)).adapt fun cause =>
    ⟨store.path, cause⟩

end Store

end RouteAtlas
