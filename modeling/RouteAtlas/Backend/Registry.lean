import RouteAtlas.Text.Blank
import RouteAtlas.Text.Case
import RouteAtlas.Text.CodeText

/-!
# Backends and their registry

A backend finds the routes of one kind of project. The registry holds the backends in the order in
which they were registered, no two of them for the same framework, and looks them up by framework or
by name, ignoring case.

That frameworks are distinct is part of the type and kept up by `register`. Names need not be, and a
name may be the framework of another backend; the first backend that answers to a word is the one
that is found.
-/

namespace RouteAtlas

/-- What a backend scans. -/
inductive Scanner where
  /-- Projects with controller classes. -/
  | controllers
  /-- Modules with router objects. -/
  | routers
  /-- Nothing at all. -/
  | idle
  deriving DecidableEq, Repr

/-- What finds the routes of one kind of project. -/
structure Backend where
  name : Text
  language : Text
  framework : Text
  /-- What the backend is called in logs. -/
  label : Text
  scanner : Scanner := .idle
  deriving DecidableEq, Repr

namespace Backend

/-- The framework, in the spelling by which backends are told apart. -/
def key (b : Backend) : Text := Text.lower b.framework

/-- The backend in one line of a log. -/
def description (b : Backend) : Text :=
  b.label ++ "(framework=".toList ++ Text.quoted b.framework ++ [')']

/-- A word, in lower case and without blanks around it, is the backend's framework or name. -/
def answersTo (b : Backend) (word : Text) : Bool := word == b.key || word == Text.lower b.name

/-- The backend for controller classes. -/
def controllers : Backend where
  name := "ASP.NET Web API".toList
  language := "csharp".toList
  framework := "aspnet".toList
  label := "AspNetDiscoveryBackend".toList
  scanner := .controllers

/-- The backend for router objects. -/
def routers : Backend where
  name := "Python (FastAPI/Flask)".toList
  language := "python".toList
  framework := "python".toList
  label := "PythonWebDiscoveryBackend".toList
  scanner := .routers

end Backend

/-- The backends that can be chosen. -/
structure Registry where
  backends : List Backend := []
  distinct : (backends.map Backend.key).Nodup := by simp

/-- A backend whose framework is taken. -/
structure FrameworkTaken where
  framework : Text
  deriving DecidableEq, Repr

/-- What is said of a backend whose framework is taken. -/
def FrameworkTaken.message (fault : FrameworkTaken) : Text :=
  "Backend already registered for framework: ".toList ++ fault.framework

/-- A word that no backend answers to. -/
structure UnknownBackend where
  word : Text
  available : List Text
  deriving DecidableEq, Repr

/-- What is said of a word that no backend answers to. -/
def UnknownBackend.message (fault : UnknownBackend) : Text :=
  let available := Text.joinWith ", ".toList fault.available
  "Unknown project type: ".toList ++ fault.word ++ ". Available types: ".toList
    ++ if available.isEmpty then "none".toList else available

namespace Registry

/-- The framework of a backend is taken. -/
def isTaken (r : Registry) (b : Backend) : Bool := (r.backends.map Backend.key).contains b.key

theorem keys_append_nodup (r : Registry) (b : Backend) (h : ¬r.isTaken b = true) :
    ((r.backends ++ [b]).map Backend.key).Nodup := by
  rw [List.map_append, List.nodup_append]
  refine ⟨r.distinct, by simp, ?_⟩
  intro a ha c hc
  simp only [List.map_cons, List.map_nil, List.mem_singleton] at hc
  rintro rfl
  exact h (List.contains_iff_mem.2 (hc ▸ ha))

/-- The registry with one more backend at its end. -/
def register (r : Registry) (b : Backend) : Except FrameworkTaken Registry :=
  if h : r.isTaken b then .error ⟨b.framework⟩
  else .ok ⟨r.backends ++ [b], r.keys_append_nodup b h⟩

/-- The frameworks, in order. -/
def frameworks (r : Registry) : List Text := r.backends.map Backend.framework

/-- The first backend that answers to a word, in any case and with blanks around it. -/
def get (r : Registry) (word : Text) : Except UnknownBackend Backend :=
  let wanted := Text.lower (Text.trim word)
  match r.backends.find? (·.answersTo wanted) with
  | some b => .ok b
  | none => .error ⟨word, r.frameworks⟩

/-- Some backend answers to a word. -/
def contains (r : Registry) (word : Text) : Bool := (r.get word).isOk

/-- The registry of the bundled backends. -/
def bundled : Registry where
  backends := [.controllers, .routers]
  distinct := by decide +kernel

end Registry

/-- Why no backend was chosen. -/
inductive ChoiceFault where
  | unknown (fault : UnknownBackend)
  | nothingSelected
  deriving DecidableEq, Repr

/-- What is said when no backend was chosen. -/
def ChoiceFault.message : ChoiceFault → Text
  | .unknown fault => fault.message
  | .nothingSelected => "No project type selected; nothing to discover".toList

/-- The backend for a hint, or else the one that was selected. -/
def Registry.choose (r : Registry) (hint : Text) (selected : Option Backend) :
    Except ChoiceFault Backend :=
  if hint.isEmpty then
    match selected with
    | some b => .ok b
    | none => .error .nothingSelected
  else (r.get hint).mapError .unknown

end RouteAtlas
