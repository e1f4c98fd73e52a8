import RouteAtlas.Text.CodeText

/-!
# Route records

A record describes one route of a repository: a controller, or an endpoint with its HTTP method
and the action that serves it. What an endpoint has and a controller lacks is part of the type
(`Role`), and so are the conditions that every stored record meets: its identifier is not empty,
its line counts from 1, and an action has a name.

The texts of a record are texts where it was discovered. In a document they may hold halves of
surrogate pairs as well, all but the identifier. So records are made of characters or of code points
(`α`), and every record of characters is one of code points (`Record.coded`).
-/

namespace RouteAtlas

/-- The two kinds of routes. -/
inductive Kind where
  | controller
  | endpoint
  deriving DecidableEq, Repr

/-- The tag of a kind in documents and identifiers. -/
def Kind.tag : Kind → Text
  | .controller => "controller".toList
  | .endpoint => "endpoint".toList

/-- The kind with a tag. -/
def Kind.ofTag? (tag : Text) : Option Kind :=
  [Kind.controller, Kind.endpoint].find? (·.tag == tag)

theorem Kind.ofTag?_tag (kind : Kind) : Kind.ofTag? kind.tag = some kind := by
  cases kind <;> decide

/-- The HTTP methods that an endpoint can have. -/
inductive Method where
  | get | post | put | delete | patch | head | options
  deriving DecidableEq, Repr

/-- All methods. -/
def Method.all : List Method := [.get, .post, .put, .delete, .patch, .head, .options]

/-- The name of a method, in capitals. -/
def Method.name : Method → Text
  | .get => "GET".toList
  | .post => "POST".toList
  | .put => "PUT".toList
  | .delete => "DELETE".toList
  | .patch => "PATCH".toList
  | .head => "HEAD".toList
  | .options => "OPTIONS".toList

/-- The method with a name in capitals. -/
def Method.ofName? (name : Text) : Option Method := Method.all.find? (·.name == name)

/-- The name of a method tells which one it is, and no name that there is none. -/
theorem Method.ofName?_name (method : Option Method) :
    Method.ofName? ((method.map Method.name).getD []) = method := by
  cases method with
  | none => decide
  | some method => cases method <;> decide

/-- Where a route is declared: a file below the repository and a line, counted from 1. -/
structure Source (α : Type := Char) where
  file : List α
  line : Nat
  line_pos : 1 ≤ line
  deriving DecidableEq, Repr

/-- The file and the line with a colon between them. -/
def Source.text (s : Source) : Text := s.file ++ ':' :: Text.ofNat s.line

/-- What a route is: a controller, or an endpoint with its method and action. -/
inductive Role (α : Type := Char) where
  | controller
  | endpoint (method : Method) (action : List α) (action_ne : action ≠ [])
  deriving DecidableEq, Repr

/-- A route of an index. -/
structure Record (α : Type := Char) where
  id : Text
  path : List α
  source : Source α
  controller : List α
  role : Role α
  id_ne : id ≠ []
  deriving DecidableEq, Repr

namespace Record

variable {α : Type}

/-- The kind of a record. -/
def kind (r : Record α) : Kind :=
  match r.role with
  | .controller => .controller
  | .endpoint .. => .endpoint

/-- The method of an endpoint. -/
def method? (r : Record α) : Option Method :=
  match r.role with
  | .controller => none
  | .endpoint method .. => some method

/-- The action of an endpoint. -/
def action? (r : Record α) : Option (List α) :=
  match r.role with
  | .controller => none
  | .endpoint _ action _ => some action

/-- The name of the method, empty for a controller. -/
def methodName (r : Record α) : Text := (r.method?.map Method.name).getD []

end Record

/-- How the parts of a record can disagree with its kind. -/
inductive RoleFault where
  | endpointWithoutMethod
  | endpointWithoutAction
  | controllerWithMethod
  | controllerWithAction
  deriving DecidableEq, Repr

/-- What is said of a record whose parts disagree with its kind. -/
def RoleFault.message (id : Text) : RoleFault → Text
  | .endpointWithoutMethod => "Endpoint ".toList ++ id ++ " has no httpMethod".toList
  | .endpointWithoutAction => "Endpoint ".toList ++ id ++ " has no action symbol".toList
  | .controllerWithMethod => "Controller ".toList ++ id ++ " must not carry httpMethod".toList
  | .controllerWithAction =>
    "Controller ".toList ++ id ++ " must not carry an action symbol".toList

/-- The role with the given parts: an endpoint has both a method and a named action, a controller
neither, not even an action without a name. -/
def Role.ofParts? {α : Type} (kind : Kind) (method : Option Method) (action : Option (List α)) :
    Except RoleFault (Role α) :=
  match kind with
  | .endpoint =>
    match method with
    | none => .error .endpointWithoutMethod
    | some method =>
      let name := action.getD []
      if h : name ≠ [] then .ok (.endpoint method name h) else .error .endpointWithoutAction
  | .controller =>
    if method.isSome then .error .controllerWithMethod
    else if action.isSome then .error .controllerWithAction
    else .ok .controller

/-! ## Code points -/

/-- The same place, in code points. -/
def Source.coded (s : Source) : Source CodePoint := ⟨CodeText.ofText s.file, s.line, s.line_pos⟩

/-- The same role, in code points. -/
def Role.coded : Role → Role CodePoint
  | .controller => .controller
  | .endpoint method action action_ne =>
    .endpoint method (CodeText.ofText action) (by simpa [CodeText.ofText] using action_ne)

/-- The same record, in code points. -/
def Record.coded (r : Record) : Record CodePoint where
  id := r.id
  path := CodeText.ofText r.path
  source := r.source.coded
  controller := CodeText.ofText r.controller
  role := r.role.coded
  id_ne := r.id_ne

/-- The role in characters, unless a half of a pair stands in it. -/
def Role.plain? : Role CodePoint → Option Role
  | .controller => some .controller
  | .endpoint method action _ => do
    (Role.ofParts? .endpoint method (some (← CodeText.toText? action))).toOption

/-- The record in characters, unless a half of a pair stands in it. -/
def Record.plain? (r : Record CodePoint) : Option Record := do
  let path ← CodeText.toText? r.path
  let file ← CodeText.toText? r.source.file
  let controller ← CodeText.toText? r.controller
  let role ← r.role.plain?
  some ⟨r.id, path, ⟨file, r.source.line, r.source.line_pos⟩, controller, role, r.id_ne⟩

end RouteAtlas
