import RouteAtlas.Files.Follow

/-!
# Canonical paths

The canonical form of a path holds no links and no dots. Names to which nothing in the tree
corresponds stay as they are, so every path has such a form, except one that runs into a link that
leads back to itself. A link is resolved once; a resolved link met again is known.

This is not how a path is followed (`FileTree.follow`): there a name that leads nowhere ends the
way, the number of links is limited and a long name is a fault. Where a path leads to something, its
canonical form is the place of that. A link that leads back to itself is found when the form that
came out is looked up.
-/

namespace RouteAtlas

/-- A path that runs into links leading back to themselves. -/
structure LinkLoop where
  path : Path
  deriving DecidableEq, Repr

/-- What is said of a path that runs in circles. -/
def LinkLoop.message (fault : LinkLoop) : Text :=
  "Symlink loop from ".toList ++ Text.quoted fault.path.text

/-- What remains to be done on the way along a path. -/
inductive Leg where
  | step (name : Text)
  /-- What the link at a place leads to is reached. -/
  | resolved (link : Place)
  deriving DecidableEq, Repr

/-- The name of a step. -/
def Leg.name? : Leg → Option Text
  | .step name => some name
  | .resolved _ => none

namespace FileTree

/-- The target of the link at a place. -/
def target? (t : FileTree) (place : Place) : Option Text :=
  match t.get? place with
  | some (.link target) => some target
  | _ => none

/-- Where a link is read from, and the steps to its target. -/
def legsOf (place : Place) (target : Text) : Place × List Leg :=
  (startOf target place, (target.splitOn '/').map .step)

/-- Where legs lead from a place, names without an entry being taken as they are. `known` holds the
links met so far, with what they lead to once that is found; `links` bounds how many more are met.
A link met again before that is found ends the walk, with what remains of the names. -/
def canonicalFrom (t : FileTree) :
    (links : Nat) → (known : List (Place × Option Place)) → Place → List Leg → Place
  | _, _, place, [] => place
  | links, known, place, .resolved link :: rest =>
    t.canonicalFrom links ((link, some place) :: known) place rest
  | links, known, place, .step name :: rest =>
    if isHere name then t.canonicalFrom links known place rest
    else if isAbove name then t.canonicalFrom links known place.dropLast rest
    else
      let next := place ++ [name]
      match t.target? next with
      | none => t.canonicalFrom links known next rest
      | some target =>
        match known.lookup next with
        | some (some end_) => t.canonicalFrom links known end_ rest
        | some none => Path.collapse [] (next ++ rest.filterMap Leg.name?)
        | none =>
          match links with
          | 0 => Path.collapse [] (next ++ rest.filterMap Leg.name?)
          | links + 1 =>
            let (start, legs) := legsOf place target
            t.canonicalFrom links ((next, none) :: known) start (legs ++ .resolved next :: rest)
termination_by links _ _ legs => (links, legs.length)

/-- The canonical form of an absolute path. -/
def canonical (t : FileTree) (path : Path) : Except LinkLoop Path :=
  let form : Path := ⟨.slash, t.canonicalFrom t.linkCount [] [] (path.names.map .step)⟩
  match t.status form with
  | .error { reason := .tooManyLinks, .. } => .error ⟨form⟩
  | _ => .ok form

/-- An absolute path as seen from `root`: its canonical form from there on, or the path as it is if
it leads to a place outside. -/
def seenFrom (t : FileTree) (root path : Path) : Except LinkLoop Path :=
  if path.names.all Path.isStorable then do
    pure (((← t.canonical path).relativeTo? root).getD path)
  else .ok path

end FileTree

end RouteAtlas
