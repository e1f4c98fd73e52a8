import RouteAtlas.Text.CodeText

/-!
# File paths

A path is a root, if it is absolute, and a list of names. Repeated slashes and single dots drop out
when a path is read; double dots stay, since only a file tree can tell what they lead to. A path
that starts with exactly two slashes has a root of its own.

What is done here goes by the names alone. `collapse` takes double dots back without looking at a
tree, which is right only where no link is on the way; `FileTree.seenFrom` is the careful form of
`seenFrom`.
-/

namespace RouteAtlas

/-- Where a path starts. -/
inductive PathRoot where
  | relative
  | slash
  | doubleSlash
  deriving DecidableEq, Repr

/-- A file path. -/
structure Path where
  root : PathRoot
  names : List Text
  deriving DecidableEq, Repr

/-- The root's text. -/
def PathRoot.text : PathRoot → Text
  | .relative => []
  | .slash => ['/']
  | .doubleSlash => ['/', '/']

namespace Path

/-- The names between the slashes of a text that count. -/
def namesIn (s : Text) : List Text :=
  (s.splitOn '/').filter fun name => !name.isEmpty && name != ['.']

/-- The path that a text spells. -/
def ofText (s : Text) : Path :=
  let slashes := (s.takeWhile (· == '/')).length
  let root :=
    if slashes = 0 then .relative else if slashes = 2 then .doubleSlash else .slash
  ⟨root, namesIn s⟩

/-- The path as text; the empty relative path is a dot. -/
def text (p : Path) : Text :=
  match p.root, p.names with
  | .relative, [] => ['.']
  | root, names => root.text ++ Text.joinWith ['/'] names

/-- The path is not relative. -/
def isAbsolute (p : Path) : Bool := p.root != .relative

/-- A path read from another place: an absolute one stays what it is. -/
def join (base : Path) (next : Path) : Path :=
  if next.isAbsolute then next else ⟨base.root, base.names ++ next.names⟩

/-- The path of an entry of a directory. -/
def child (p : Path) (name : Text) : Path := ⟨p.root, p.names ++ [name]⟩

/-- The path without its last name; a root is its own parent. -/
def parent (p : Path) : Path := ⟨p.root, p.names.dropLast⟩

/-- The last name, empty if there is none. -/
def name (p : Path) : Text := p.names.getLastD []

/-- A name's ending from its last dot on. A dot at the beginning or the end of a name starts no
ending. -/
def suffixOf (name : Text) : Text :=
  let ending := (name.reverse.takeWhile (· != '.')).reverse
  if ending.isEmpty || name.length ≤ ending.length + 1 then []
  else '.' :: ending

/-- The ending of the last name. -/
def suffix (p : Path) : Text := suffixOf p.name

/-- A path that should have had a name. -/
structure Nameless where
  path : Path
  deriving DecidableEq, Repr

/-- What is said of a path without a name. -/
def Nameless.message (fault : Nameless) : Text :=
  "PurePosixPath(".toList ++ Text.quoted fault.path.text ++ ") has an empty name".toList

/-- The path whose last name has lost its ending. -/
def withoutSuffix (p : Path) : Except Nameless Path :=
  match p.names.getLast? with
  | none => .error ⟨p⟩
  | some last =>
    .ok ⟨p.root, p.names.dropLast ++ [last.take (last.length - (suffixOf last).length)]⟩

/-- The path seen from one of its ancestors, or from itself. -/
def relativeTo? (p base : Path) : Option Path :=
  if p.root = base.root then
    (base.names.isPrefixOf? p.names).map fun names => ⟨.relative, names⟩
  else none

/-- Strict ancestors: `a` lies above `p`. -/
def isAncestor (a p : Path) : Bool :=
  a.root == p.root && a.names.isPrefixOf p.names && a.names.length < p.names.length

/-- The names with each double dot taken back by the name before it; above a root there is only the
root. The names before are held backwards. -/
def collapse : List Text → List Text → List Text
  | before, [] => before.reverse
  | before, name :: rest =>
    if name = ['.', '.'] then collapse before.tail rest else collapse (name :: before) rest

/-- An absolute path without double dots, where no link can lead elsewhere. -/
def collapsed (p : Path) : Path := ⟨.slash, collapse [] p.names⟩

/-- The name can stand in a file tree: no name there holds the character with number 0. -/
def isStorable (name : Text) : Bool := !name.contains (Char.ofNat 0)

/-- A path as seen from `root`, going by the names alone; a path that does not lie below `root`
stays as it is. -/
def seenFrom (root p : Path) : Path :=
  if p.isAbsolute && p.names.all isStorable then (p.collapsed.relativeTo? root).getD p else p

/-- The path of what names lead to from a directory. -/
def below (directory : Path) (names : List Text) : Path :=
  ⟨directory.root, directory.names ++ names⟩

/-- Order by the names, compared one after the other. -/
def le (a b : Path) : Bool := !decide (b.names < a.names)

end Path

end RouteAtlas
