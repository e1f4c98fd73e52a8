import RouteAtlas.Files.Fault
import RouteAtlas.Files.Tree

/-!
# Following paths

A path is followed name by name. Every name but the last has to lead to a directory; links lead on
to their targets, a limited number of them; two dots lead to the directory above. The last name may
be vacant, so that something can be put there.

Reading, writing and walking ask a tree through here: what stands at a path (`status`), whether
anything does (`status?`), and where something new would stand (`locate`). The limits on names and
paths are counted in bytes. A path that is too long is refused at once, an over-long name only where
the way comes to it, so a link to one does no harm until it is followed.
-/

namespace RouteAtlas

/-- Where a path leads. -/
inductive Spot where
  | taken (place : Place) (entry : Entry)
  /-- Nothing stands there, but it is in a directory. -/
  | vacant (directory : Place) (name : Text)
  deriving DecidableEq, Repr

/-- What becomes of a link at the end of a path. -/
inductive LastLink where
  | followed
  | kept
  deriving DecidableEq, Repr

namespace FileTree

/-- How many links may be followed. -/
def linkLimit : Nat := 40

/-- How many bytes a name may have. -/
def nameLimit : Nat := 255

/-- How many bytes a path may have. -/
def pathLimit : Nat := 4095

/-- A name that stands for the directory it is read in. -/
def isHere (name : Text) : Bool := name.isEmpty || name == ['.']

/-- A name that stands for the directory above. -/
def isAbove (name : Text) : Bool := name == ['.', '.']

/-- What a name in a directory leads to. -/
inductive Found where
  | nothing
  | link (target : Text)
  /-- A file or a directory. -/
  | entry (place : Place)
  deriving DecidableEq, Repr

/-- What is found at a place. -/
def found (t : FileTree) (place : Place) : Found :=
  match t.get? place with
  | none => .nothing
  | some (.link target) => .link target
  | some _ => .entry place

/-- What a name leads to from a place. -/
def look (t : FileTree) (place : Place) (name : Text) : Except FileReason Found :=
  if t.get? place ≠ some .directory then .error .notDirectory
  else if isHere name then .ok (.entry place)
  else if isAbove name then .ok (.entry place.dropLast)
  else if nameLimit < (Utf8.encode name).length then .error .nameTooLong
  else .ok (t.found (place ++ [name]))

/-- Where the target of a link in a directory is read from. -/
def startOf (target : Text) (directory : Place) : Place :=
  if target.head? = some '/' then [] else directory

/-- Where names lead from a place, if at most `links` links are on the way. -/
def follow (t : FileTree) (last : LastLink) :
    (links : Nat) → Place → List Text → Except FileReason Spot
  | _, place, [] =>
    match t.get? place with
    | some entry => .ok (.taken place entry)
    | none => .error .missing
  | links, place, name :: rest =>
    match t.look place name with
    | .error reason => .error reason
    | .ok .nothing => if rest.isEmpty then .ok (.vacant place name) else .error .missing
    | .ok (.link target) =>
      if rest.isEmpty && last == .kept then .ok (.taken (place ++ [name]) (.link target))
      else match links with
        | 0 => .error .tooManyLinks
        | links + 1 => follow t last links (startOf target place) (target.splitOn '/' ++ rest)
    | .ok (.entry next) => follow t last links next rest
termination_by links _ names => (links, names.length)

theorem follow_nil_eq (t : FileTree) (last : LastLink) (links : Nat) (place : Place) :
    t.follow last links place [] = match t.get? place with
      | some entry => .ok (.taken place entry)
      | none => .error .missing := by
  rw [follow]

theorem follow_cons_eq (t : FileTree) (last : LastLink) (links : Nat) (place : Place) (name : Text)
    (rest : List Text) :
    t.follow last links place (name :: rest) = match t.look place name with
      | .error reason => .error reason
      | .ok .nothing => if rest.isEmpty then .ok (.vacant place name) else .error .missing
      | .ok (.link target) =>
        if rest.isEmpty && last == .kept then .ok (.taken (place ++ [name]) (.link target))
        else match links with
          | 0 => .error .tooManyLinks
          | links + 1 => t.follow last links (startOf target place) (target.splitOn '/' ++ rest)
      | .ok (.entry next) => t.follow last links next rest := by
  rw [follow]

/-- Where an absolute path leads. -/
def locate (t : FileTree) (path : Path) (last : LastLink := .followed) : Except FileFault Spot :=
  if !path.names.all Path.isStorable then .error { reason := .nullCharacter, path }
  else if pathLimit < (Utf8.encode path.text).length then .error { reason := .nameTooLong, path }
  else (t.follow last linkLimit [] path.names).mapError fun reason => { reason, path }

/-- What an absolute path leads to. -/
def status (t : FileTree) (path : Path) (last : LastLink := .followed) :
    Except FileFault (Place × Entry) := do
  match ← t.locate path last with
  | .taken place entry => pure (place, entry)
  | .vacant .. => throw { reason := .missing, path }

/-- What an absolute path leads to, if to anything. -/
def status? (t : FileTree) (path : Path) : Except FileFault (Option Entry) :=
  match t.status path with
  | .ok (_, entry) => .ok (some entry)
  | .error fault => if fault.reason.meansAbsent then .ok none else .error fault

/-- A path leads to a directory. -/
def isDirectory (t : FileTree) (path : Path) : Bool :=
  match t.status path with
  | .ok (_, entry) => entry.isDirectory
  | .error _ => false

end FileTree

end RouteAtlas
