import RouteAtlas.Controllers.Scan

/-!
# Which classes are controllers

A class is a controller if it carries the attribute `ApiController`, or if a chain of bases leads
from it to `Controller` or `ControllerBase`. A base is looked up by its simple name; among classes
of one name, the first one counts. Inheritance may run in circles: no name is followed twice.

The search starts with the name of the class itself among those that are not followed again, so a
base of the same name in another namespace leads nowhere. Since the bases of a class are taken up
once, all bases together bound the steps of the search.
-/

namespace RouteAtlas.Controllers

/-- The bases that make a class a controller. -/
def controllerBases : List Text := ["Controller", "ControllerBase"].map String.toList

/-- The attribute that makes a class a controller. -/
def controllerAttribute : Text := "ApiController".toList

/-- The first class of a name. -/
def classNamed? (classes : List ClassDecl) (name : Text) : Option ClassDecl :=
  classes.find? (·.name == name)

/-- One of the names in `todo` is a base of controllers, or the bases of its class lead to one.
Names in `seen` are not followed again. -/
def leadsToController (classes : List ClassDecl) :
    (fuel : Nat) → (seen todo : List Text) → Bool
  | 0, _, _ => false
  | _ + 1, _, [] => false
  | fuel + 1, seen, name :: todo =>
    if name ∈ controllerBases then true
    else match classNamed? classes name with
      | none => leadsToController classes fuel seen todo
      | some parent =>
        if name ∈ seen then leadsToController classes fuel seen todo
        else leadsToController classes fuel (name :: seen) (parent.bases ++ todo)

/-- The number of bases of all classes together. -/
def baseCount (classes : List ClassDecl) : Nat := (classes.flatMap ClassDecl.bases).length

/-- The class is a controller. The names to look at are its own bases and those of classes met for
the first time, so there are never more than the bound given here. -/
def ClassDecl.isController (classes : List ClassDecl) (c : ClassDecl) : Bool :=
  c.attributes.any (·.name == controllerAttribute)
    || leadsToController classes (c.bases.length + baseCount classes + 1) [c.name] c.bases

/-- The controllers among some classes; `found` holds file and line of the earlier ones. A
declaration counts once. -/
def controllersFrom (classes : List ClassDecl) (found : List (Path × Nat)) :
    List ClassDecl → List ClassDecl
  | [] => []
  | c :: rest =>
    if (c.file, c.line) ∉ found ∧ c.isController classes then
      c :: controllersFrom classes ((c.file, c.line) :: found) rest
    else controllersFrom classes found rest

/-- The controllers among some classes, in order. -/
def findControllers (classes : List ClassDecl) : List ClassDecl :=
  controllersFrom classes [] classes

end RouteAtlas.Controllers
