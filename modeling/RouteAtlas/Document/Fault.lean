import RouteAtlas.Text.Basic

/-!
# Faults of documents

Why a value does not fit where it stands: a list of steps that leads to it, and what is wrong. A
document is checked as a whole, so one check may find many faults.

Checks are put together so that no fault hides another one. Of two values side by side both are
checked (`Checked.both`), of a list every item is (`Checked.items`), and a check of a part is told
where the part is by whoever looks into it (`Checked.under`). The faults come in the order in which
the parts are looked at.
-/

namespace RouteAtlas

/-- A step from a value to one of its parts. -/
inductive Step where
  | key (name : Text)
  | item (place : Nat)
  deriving DecidableEq, Repr

/-- What is wrong with a value. -/
inductive Wrong where
  | missing
  | notText
  | textNotEncodable
  | textTooShort
  | notInteger
  | integerUnreadable
  | integerTooLong
  | integerWithFraction
  | notFinite
  | notFloat
  | floatUnreadable
  | tooSmall
  | notAbove
  | notBelow
  | notMember
  | notObject
  | notList
  | notPath
  | refused (message : Text)
  deriving DecidableEq, Repr

/-- The tag under which a fault is reported. -/
def Wrong.tag : Wrong → String
  | .missing => "missing"
  | .notText => "string_type"
  | .textNotEncodable => "string_unicode"
  | .textTooShort => "string_too_short"
  | .notInteger => "int_type"
  | .integerUnreadable => "int_parsing"
  | .integerTooLong => "int_parsing_size"
  | .integerWithFraction => "int_from_float"
  | .notFinite => "finite_number"
  | .notFloat => "float_type"
  | .floatUnreadable => "float_parsing"
  | .tooSmall => "greater_than_equal"
  | .notAbove => "greater_than"
  | .notBelow => "less_than"
  | .notMember => "enum"
  | .notObject => "model_type"
  | .notList => "tuple_type"
  | .notPath => "path_type"
  | .refused _ => "value_error"

/-- A fault and where it is. -/
structure Fault where
  steps : List Step
  wrong : Wrong
  deriving DecidableEq, Repr

/-- The fault seen from one step further out. -/
def Fault.under (step : Step) (fault : Fault) : Fault := ⟨step :: fault.steps, fault.wrong⟩

/-- The outcome of a check: a value, or all faults in order. -/
abbrev Checked (α : Type) := Except (List Fault) α

namespace Checked

variable {α β : Type}

/-- A single fault right here. -/
def fail (wrong : Wrong) : Checked α := .error [⟨[], wrong⟩]

/-- The outcome seen from one step further out. -/
def under (step : Step) (x : Checked α) : Checked α :=
  x.mapError (·.map (Fault.under step))

/-- Both values, or the faults of both checks, the first one's first. -/
def both (x : Checked α) (y : Checked β) : Checked (α × β) :=
  match x, y with
  | .ok a, .ok b => .ok (a, b)
  | .ok _, .error ys => .error ys
  | .error xs, .ok _ => .error xs
  | .error xs, .error ys => .error (xs ++ ys)

/-- All values of a list, each checked under its place, or all faults. -/
def items (check : β → Checked α) : Nat → List β → Checked (List α)
  | _, [] => .ok []
  | place, x :: rest =>
    ((under (.item place) (check x)).both (items check (place + 1) rest)).map fun (a, as) => a :: as

end Checked

end RouteAtlas
