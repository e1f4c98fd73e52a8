import RouteAtlas.Script.Syntax

/-!
# Routers

A router is a variable of a script that is assigned the result of a known factory, outside of all
blocks. What the factory is given under a certain keyword is the path that all routes of the router
begin with. A variable that is assigned again keeps its place among the routers and is otherwise
what it was assigned last.

A factory is known by the last part of its name, wherever that comes from: a script that gives it
another name is not seen through. Where the path is no text constant the routes begin with nothing.
An assignment of something else to the variable of a router does not take the router away.
-/

namespace RouteAtlas.Routers

open Script

/-- A variable that holds a router: its name, the path its routes begin with, and the line of its
assignment. -/
structure Router where
  name : Text
  base : CodeText
  line : Nat
  deriving DecidableEq, Repr

/-- The names of the factories, each with the keyword of the path if it has one. -/
def factories : List (Text × Option Text) :=
  [("FastAPI".toList, some "root_path".toList),
   ("APIRouter".toList, some "prefix".toList),
   ("Flask".toList, none),
   ("Blueprint".toList, some "url_prefix".toList)]

/-- What a call gives under a keyword: the first, if it is there more than once. -/
def keyword? (keywords : List (Option Text × Expr)) (name : Text) : Option Expr :=
  (keywords.find? (·.1 == some name)).map (·.2)

/-- The text that a call gives under a keyword. -/
def keywordText? (keywords : List (Option Text × Expr)) (name : Text) : Option CodeText :=
  (keyword? keywords name).bind Expr.text?

/-- The name of what is called: a name, or the last part of a dotted one. -/
def calledName? : Expr → Option Text
  | .name id => some id
  | .member _ field => some field
  | _ => none

/-- The path that the routes of a router begin with, if the expression makes a router. -/
def basePath? : Expr → Option CodeText
  | .call callee _ keywords => do
    let id ← calledName? callee
    let (_, word?) ← factories.find? (·.1 == id)
    pure ((word?.bind (keywordText? keywords)).getD [])
  | _ => none

/-- Puts a router in the place of the one of its name, or behind all others. -/
def put (r : Router) : List Router → List Router
  | [] => [r]
  | s :: rest => if s.name = r.name then r :: rest else s :: put r rest

/-- The variable that a target is, if it is one. -/
def variableOf? : Expr → Option Text
  | .name id => some id
  | _ => none

/-- The routers that a statement makes. -/
def madeBy : Statement → List Router
  | .assignment line targets value =>
    match basePath? value with
    | some base => (targets.filterMap variableOf?).map fun id => ⟨id, base, line⟩
    | none => []
  | _ => []

/-- The routers of a script, in the order in which their names are first assigned. -/
def routersIn (script : List Statement) : List Router :=
  (script.flatMap madeBy).foldl (fun routers r => put r routers) []

end RouteAtlas.Routers
