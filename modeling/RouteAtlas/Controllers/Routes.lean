import RouteAtlas.Controllers.Inheritance
import RouteAtlas.Route.Discovered
import RouteAtlas.Route.Join
import RouteAtlas.Score.Word
import RouteAtlas.Text.Case

/-!
# The routes of a controller

A controller has one route of its own, with the template of its `Route` attribute, and one for each
attribute of a public method that names an HTTP method. In templates, `[controller]` stands for the
short name of the controller and `[action]` for the name of the method, in any case.

The template of an endpoint is that of the attribute that names its method. Only an attribute
without one leaves the word to a `Route` attribute of the method. What the template is below, and
whether it stands alone, is decided when both are joined (`underController`).
-/

namespace RouteAtlas.Controllers

/-- The attributes that name HTTP methods. -/
def methodAttributes : List (Text × Method) :=
  [("HttpGet", Method.get), ("HttpPost", .post), ("HttpPut", .put), ("HttpDelete", .delete),
   ("HttpPatch", .patch), ("HttpHead", .head), ("HttpOptions", .options)].map
    fun (name, method) => (name.toList, method)

/-- The HTTP method that an attribute names. -/
def Attribute.method? (a : Attribute) : Option Method :=
  (methodAttributes.find? (·.1 == a.name)).map (·.2)

/-- The first template of a `Route` attribute. -/
def routeTemplate? (attributes : List Attribute) : Option Text :=
  attributes.findSome? fun a => if a.name = "Route".toList then a.template else none

/-- What follows a token at the beginning of a text, case being ignored. -/
def behindToken? : Text → Text → Option Text
  | [], s => some s
  | _ :: _, [] => none
  | a :: token, c :: s => if Text.sameLetter a c then behindToken? token s else none

theorem behindToken?_length {token s after : Text} (h : behindToken? token s = some after) :
    after.length + token.length = s.length := by
  fun_induction behindToken? token s with
  | case1 s => cases h; simp
  | case2 => cases h
  | case3 a token c s _ ih =>
    have := ih h
    simp only [List.length_cons]
    omega
  | case4 => cases h

/-- A text in the place of every token that starts with `first`. -/
def replaceToken (first : Char) (token value : Text) (s : Text) : Text :=
  match s with
  | [] => []
  | c :: rest =>
    match _h : behindToken? (first :: token) (c :: rest) with
    | some after => value ++ replaceToken first token value after
    | none => c :: replaceToken first token value rest
termination_by s.length
decreasing_by
  · have := behindToken?_length _h
    simp only [List.length_cons] at this ⊢
    omega
  · simp

/-- A template with the name of the controller put in. -/
def withController (controller template : Text) : Text :=
  replaceToken '[' "controller]".toList (shortControllerName controller) template

/-- A template with the names of controller and action put in. -/
def withNames (controller action template : Text) : Text :=
  replaceToken '[' "action]".toList action (withController controller template)

namespace ClassDecl

/-- The template that the routes of a controller share. -/
def template? (c : ClassDecl) : Option Text := routeTemplate? c.attributes

/-- The path of a controller, empty if it has no template. -/
def path (c : ClassDecl) : Text :=
  match c.template? with
  | none | some [] => []
  | some template => rooted (withController c.name template)

/-- The route of the controller itself. -/
def controllerRoute (c : ClassDecl) (file : Text) : Discovered :=
  { kind := .controller
    path := CodeText.ofText c.path
    file
    line := c.line
    controller := c.name }

/-- The path of an endpoint: the template of its attribute, or else of the method's own `Route`,
under that of the controller. -/
def endpointPath (c : ClassDecl) (method : Action) (mark : Attribute) : Text :=
  let template := (mark.template.or (routeTemplate? method.attributes)).getD []
  underController (withNames c.name method.name (c.template?.getD []))
    (withNames c.name method.name template)

/-- The endpoint of an attribute, if it names an HTTP method. -/
def endpoint? (c : ClassDecl) (file : Text) (method : Action) (mark : Attribute) :
    Option Discovered :=
  mark.method?.map fun httpMethod =>
    { kind := .endpoint
      path := CodeText.ofText (c.endpointPath method mark)
      file
      line := method.line
      controller := c.name
      method := some httpMethod
      action := some method.name }

/-- The endpoints of a controller, in the order of its methods and their attributes. -/
def endpoints (c : ClassDecl) (file : Text) : List Discovered :=
  (c.methods.filter (·.isPublic)).flatMap fun method =>
    method.attributes.filterMap (c.endpoint? file method)

/-- The route of the controller and those of its endpoints. -/
def routes (c : ClassDecl) (file : Text) : List Discovered :=
  c.controllerRoute file :: c.endpoints file

end ClassDecl

end RouteAtlas.Controllers
