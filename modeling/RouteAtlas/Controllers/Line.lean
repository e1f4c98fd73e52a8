import RouteAtlas.Text.Basic

/-!
# Lines without comments and strings

A line is looked at in two ways. `withoutComments` leaves strings as they are, for what is read from
them. `bareCode` empties strings as well, so that the braces left in it are braces of the code. Both
carry over from line to line whether a comment is open; a string never goes beyond its line.

The two are written out side by side, although they take the same steps, since each keeps its own
account of open comments. That these accounts never part is a theorem about them.
-/

namespace RouteAtlas.Controllers

/-- What a place in a line belongs to. -/
inductive Zone where
  | code
  | comment
  | string
  deriving DecidableEq, Repr

/-- A zone as it is at the beginning of a line. -/
def Zone.start (inComment : Bool) : Zone := if inComment then .comment else .code

/-- The line from a zone on without comments, and whether a comment is open at its end. -/
def withoutCommentsFrom : Zone → Text → Text × Bool
  | .comment, '*' :: '/' :: rest => withoutCommentsFrom .code rest
  | .comment, _ :: rest => withoutCommentsFrom .comment rest
  | .comment, [] => ([], true)
  | .string, '\\' :: c :: rest =>
    let (text, isOpen) := withoutCommentsFrom .string rest
    ('\\' :: c :: text, isOpen)
  | .string, c :: rest =>
    let (text, isOpen) := withoutCommentsFrom (if c = '"' then .code else .string) rest
    (c :: text, isOpen)
  | .code, '/' :: '/' :: _ => ([], false)
  | .code, '/' :: '*' :: rest => withoutCommentsFrom .comment rest
  | .code, c :: rest =>
    let (text, isOpen) := withoutCommentsFrom (if c = '"' then .string else .code) rest
    (c :: text, isOpen)
  | _, [] => ([], false)

@[simp] theorem withoutCommentsFrom_code_nil : withoutCommentsFrom .code [] = ([], false) := by
  simp [withoutCommentsFrom]

/-- A line without comments. -/
def withoutComments (line : Text) (inComment : Bool) : Text × Bool :=
  withoutCommentsFrom (.start inComment) line

/-- The line from a zone on without comments and without what strings hold, and whether a comment
is open at its end. -/
def bareCodeFrom : Zone → Text → Text × Bool
  | .comment, '*' :: '/' :: rest => bareCodeFrom .code rest
  | .comment, _ :: rest => bareCodeFrom .comment rest
  | .comment, [] => ([], true)
  | .string, '\\' :: _ :: rest => bareCodeFrom .string rest
  | .string, '"' :: rest =>
    let (text, isOpen) := bareCodeFrom .code rest
    ('"' :: text, isOpen)
  | .string, _ :: rest => bareCodeFrom .string rest
  | .code, '/' :: '/' :: _ => ([], false)
  | .code, '/' :: '*' :: rest => bareCodeFrom .comment rest
  | .code, c :: rest =>
    let (text, isOpen) := bareCodeFrom (if c = '"' then .string else .code) rest
    (c :: text, isOpen)
  | _, [] => ([], false)

@[simp] theorem bareCodeFrom_code_nil : bareCodeFrom .code [] = ([], false) := by
  simp [bareCodeFrom]

/-- A line without comments and without what strings hold. -/
def bareCode (line : Text) (inComment : Bool) : Text × Bool := bareCodeFrom (.start inComment) line

end RouteAtlas.Controllers
