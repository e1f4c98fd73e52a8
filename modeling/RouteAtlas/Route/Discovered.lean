import RouteAtlas.Digest
import RouteAtlas.Route.Record

/-!
# Discovered routes and their identifiers

A discovered route has no identifier yet. Its identifier is the beginning of a digest of a text
that lists everything about it, so that unchanged sources keep their identifiers. Routes that agree
in everything are told apart by an ordinal, which is part of the text unless it is 0.

The path of a discovered route is as the source spells it, and may hold halves of surrogate pairs.
The text of such a route cannot be encoded and so has no digest, which is where a route like that
stops an index from being built.
-/

namespace RouteAtlas

/-- A route as a scan finds it. Its path may hold anything that a string constant can spell. -/
structure Discovered where
  kind : Kind
  path : CodeText
  file : Text
  line : Int
  controller : Text
  method : Option Method := none
  action : Option Text := none
  deriving DecidableEq, Repr

/-- What an identifier depends on. -/
structure Identity where
  kind : Text
  file : Text
  line : Int
  method : Text
  path : CodeText
  controller : Text
  action : Text
  ordinal : Int

/-- The text that is digested: the components in order, each behind its name, between bars. -/
def Identity.text (i : Identity) : CodeText :=
  let component := fun (name : String) (value : Text) => CodeText.ofText (name.toList ++ value)
  component "kind:" i.kind ++ component "|file:" i.file
    ++ component "|line:" (Text.ofInt i.line) ++ component "|method:" i.method
    ++ (CodeText.ofString "|path:" ++ i.path) ++ component "|controller:" i.controller
    ++ component "|action:" i.action
    ++ (if i.ordinal = 0 then [] else component "|ordinal:" (Text.ofInt i.ordinal))

/-- How many digits of the digest an identifier keeps. -/
def identifierLength : Nat := 16

/-- The identifier, unless the text cannot be encoded. -/
def Identity.identifier (i : Identity) : Except Utf8.EncodeFault Text := do
  let bytes ← Utf8.encodeCode i.text
  pure ((Digest.sha256 bytes).take identifierLength)

/-- What the identifier of a discovered route depends on. -/
def Discovered.identity (d : Discovered) (ordinal : Nat) : Identity :=
  { kind := d.kind.tag
    file := d.file
    line := d.line
    method := (d.method.map Method.name).getD []
    path := d.path
    controller := d.controller
    action := d.action.getD []
    ordinal := ordinal }

/-- The identifier of a discovered route with an ordinal. -/
def Discovered.identifier (d : Discovered) (ordinal : Nat) : Except Utf8.EncodeFault Text :=
  (d.identity ordinal).identifier

end RouteAtlas
