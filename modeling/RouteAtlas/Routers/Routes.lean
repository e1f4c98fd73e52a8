import RouteAtlas.Path
import RouteAtlas.Route.Discovered
import RouteAtlas.Route.Join
import RouteAtlas.Routers.Router
import RouteAtlas.Script.Read
import RouteAtlas.Text.Case

/-!
# The routes of a script

Each router has one route of its own. A function has the endpoints that the calls applied to it
declare: a call of a member of a router, named for an HTTP method or for routes in general. In the
latter case the call may list the methods. The template of the route is the first argument, or else
what is given under one of two keywords.

The routes of routers come first, then the endpoints, both by line.

A source file below the repository is a module: its name is the file's path without the ending,
dots in place of slashes. A file called `__init__` stands for the package it lies in. The routes of
a router belong to a controller that is named for the module and the router.
-/

namespace RouteAtlas.Routers

open Script

/-! ## Module names -/

/-- The file name that stands for the package around it. -/
def packageFile : Text := "__init__".toList

/-- The name of a module without any other. -/
def mainModule : Text := "__main__".toList

/-- The name of the module in a file. -/
def moduleName (file : Text) : Except Path.Nameless Text := do
  let path ← (Path.ofText file).withoutSuffix
  let root := path.root.text
  let parts := (if root.isEmpty then [] else [root]) ++ path.names
  let parts := if parts.getLast? = some packageFile then parts.dropLast else parts
  let name := Text.joinWith ['.'] parts
  pure (if name.isEmpty then mainModule else name)

/-! ## Endpoints -/

/-- The HTTP method with a name in any case. -/
def methodNamed? (name : Text) : Option Method :=
  Method.all.find? fun m => Text.lower m.name == Text.lower name

/-- The members of a router that declare a route for the listed methods. -/
def generalMembers : List Text := ["route".toList, "api_route".toList]

/-- The methods that a call lists. What is no name of a method is passed over; without a list the
method is GET. -/
def listedMethods (keywords : List (Option Text × Expr)) : List Method :=
  match keyword? keywords "methods".toList with
  | some (.display _ items) =>
    items.filterMap fun e => (e.text?.bind CodeText.toText?).bind methodNamed?
  | _ => [.get]

/-- The methods for which a call of a member declares a route. -/
def declaredMethods (field : Text) (keywords : List (Option Text × Expr)) : List Method :=
  match methodNamed? field with
  | some method => [method]
  | none => if generalMembers.contains (Text.lower field) then listedMethods keywords else []

/-- The template that a call gives: its first argument if that is a text, or else what it gives
under the first keyword unless that is empty, or else under the second one. -/
def template (positional : List Expr) (keywords : List (Option Text × Expr)) : CodeText :=
  match positional.head?.bind Expr.text? with
  | some found => found
  | none =>
    match keywordText? keywords "path".toList with
    | none | some [] => (keywordText? keywords "rule".toList).getD []
    | some found => found

/-- A route that something applied to a function declares. -/
structure Declared where
  router : Router
  method : Method
  template : CodeText
  deriving DecidableEq, Repr

/-- The routes that an expression declares when it is applied to a function. -/
def declaredBy (routers : List Router) : Expr → List Declared
  | .call (.member (.name owner) field) positional keywords =>
    match routers.find? (·.name = owner) with
    | some router =>
      (declaredMethods field keywords).map fun method =>
        ⟨router, method, template positional keywords⟩
    | none => []
  | _ => []

/-- The name under which a router is known: its module and its variable. -/
def Router.fullName (moduleName : Text) (r : Router) : Text := moduleName ++ '.' :: r.name

/-- The route of a router itself. -/
def Router.route (file moduleName : Text) (r : Router) : Discovered :=
  { kind := .controller
    path := if r.base.isEmpty then [] else rooted r.base
    file
    line := r.line + 1
    controller := r.fullName moduleName }

/-- The endpoint of a function that a declared route leads to. -/
def Declared.endpoint (file moduleName : Text) (f : FunctionHead) (d : Declared) : Discovered :=
  { kind := .endpoint
    path := underRouter d.router.base d.template
    file
    line := f.firstLine + 1
    controller := d.router.fullName moduleName
    method := some d.method
    action := some f.name.text }

/-- The endpoints of a function, in the order of what is applied to it. -/
def endpointsOf (routers : List Router) (file moduleName : Text) (f : FunctionHead) :
    List Discovered :=
  (f.decorators.flatMap fun applied => declaredBy routers applied.expr).map
    (·.endpoint file moduleName f)

/-- In the order of lines; routes of one line stay in order. -/
def byLine (routes : List Discovered) : List Discovered :=
  routes.mergeSort fun a b => a.line ≤ b.line

/-- The routes of a script in a file of a module. -/
def routesOf (script : List Statement) (file moduleName : Text) : List Discovered :=
  let routers := routersIn script
  byLine (routers.map (·.route file moduleName))
    ++ byLine ((functionsIn script).flatMap (endpointsOf routers file moduleName))

/-- Why a file has no routes. -/
inductive Fault where
  | script (fault : Script.Fault)
  | nameless (fault : Path.Nameless)

/-- The routes of a source file. Its module needs a name only if there is a router. -/
def routesIn (source file : Text) : Except Fault (List Discovered) := do
  match Script.read source with
  | .error fault => .error (.script fault)
  | .ok script =>
    if (routersIn script).isEmpty then pure []
    else
      match moduleName file with
      | .error fault => .error (.nameless fault)
      | .ok name => pure (routesOf script file name)

end RouteAtlas.Routers
