import RouteAtlas.Route.Record
import RouteAtlas.Text.Blank
import RouteAtlas.Text.Case

/-!
# Filters

Which routes a search or a listing considers: those of one kind, or of one HTTP method, or all. A
method is compared without regard to case and to blanks around it; a filter of blanks alone admits
every method.

Kinds are named by a few words and their first letters. A word that names none is a fault, which
shows the word as it was typed; no word at all names all kinds.
-/

namespace RouteAtlas

/-- The kinds of routes that are considered. -/
inductive KindFilter where
  | all
  | only (kind : Kind)
  deriving DecidableEq, Repr

namespace KindFilter

/-- The filter's tag. -/
def tag : KindFilter → Text
  | .all => "all".toList
  | .only kind => kind.tag

/-- The filter with a tag. -/
def ofTag? (tag : Text) : Option KindFilter :=
  [KindFilter.all, .only .controller, .only .endpoint].find? (·.tag == tag)

/-- The filter admits routes of a kind. -/
def admits : KindFilter → Kind → Bool
  | .all, _ => true
  | .only wanted, kind => wanted == kind

/-- The words for each filter. -/
def words : List (KindFilter × List String) :=
  [(.only .controller, ["c", "controller", "controllers"]),
   (.only .endpoint, ["e", "endpoint", "endpoints"]),
   (.all, ["a", "all"])]

/-- A word that names no filter. -/
structure Unknown where
  word : Text
  deriving DecidableEq, Repr

/-- What is said of a word that names no filter. -/
def Unknown.message (fault : Unknown) : Text :=
  "Invalid type filter: ".toList ++ fault.word
    ++ ". Use \x27c\x27/\x27controller\x27 or \x27e\x27/\x27endpoint\x27".toList

/-- The filter that a word names, in any case and between blanks. No word at all names all. -/
def ofWord (word : Text) : Except Unknown KindFilter :=
  if word.isEmpty then .ok .all
  else
    let plain := Text.lower (Text.trim word)
    match words.find? fun (_, names) => names.any fun name => name.toList == plain with
    | some (filter, _) => .ok filter
    | none => .error ⟨word⟩

end KindFilter

/-- Kind and method of the routes that are considered; an empty method admits all routes. -/
structure Filter where
  kind : KindFilter := .all
  method : Text := []
  deriving DecidableEq, Repr

namespace Filter

/-- The name that a method must have, empty if any will do. -/
def wantedMethod (f : Filter) : Text := Text.upper (Text.trim f.method)

/-- The filter admits a route. A route without a method meets no demand on its method. -/
def admits (f : Filter) (r : Record) : Bool :=
  f.kind.admits r.kind && (f.wantedMethod.isEmpty || r.methodName == f.wantedMethod)

/-- The routes that a filter admits, in order. -/
def select (f : Filter) (routes : List Record) : List Record := routes.filter f.admits

end Filter

end RouteAtlas
