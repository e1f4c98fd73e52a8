import RouteAtlas.Text.CodeText

/-!
# Joining route templates

Two ways to put a route below a beginning. `underController` is for attribute routes: a template
that starts with a slash is absolute and stands alone. `underRouter` is for routers, which always
put their own path first. Both give a path that starts with a slash, with one slash at the joint.

The definitions serve any symbols with a slash among them, since templates come both as plain text
and as text with halves of surrogate pairs in it.
-/

namespace RouteAtlas

/-- Symbols with a slash among them. -/
class HasSlash (α : Type) where
  slash : α

instance : HasSlash Char := ⟨'/'⟩

instance : HasSlash CodePoint := ⟨.char '/'⟩

variable {α : Type} [DecidableEq α] [HasSlash α]

/-- The symbol is the slash. -/
def isSlash (x : α) : Bool := x == HasSlash.slash

/-- The list starts with a slash. -/
def startsWithSlash (path : List α) : Bool := (path.head?.map isSlash).getD false

/-- The path with a slash at its beginning, added if there is none. -/
def rooted (path : List α) : List α :=
  if startsWithSlash path then path else HasSlash.slash :: path

/-- Both parts with exactly one slash between them. -/
def glue (first second : List α) : List α :=
  rooted ((first.reverse.dropWhile isSlash).reverse ++ HasSlash.slash :: second.dropWhile isSlash)

/-- A route below the template of its controller: an absolute route stands alone. -/
def underController (template route : List α) : List α :=
  if template.isEmpty then rooted route
  else if route.isEmpty then rooted template
  else if startsWithSlash route then route
  else glue template route

/-- A route below the path of its router, which is never discarded. -/
def underRouter (base template : List α) : List α :=
  if base.isEmpty then rooted template
  else if template.isEmpty then rooted base
  else glue base template

end RouteAtlas
