import RouteAtlas.Document.Fault
import RouteAtlas.Index.Basic
import RouteAtlas.Route.Discovered

/-!
# Building an index

Discovered routes become records in their order. Each gets the identifier of the least ordinal that
no earlier route has taken, so an index depends on nothing but its routes and their order.

There is no bound on the ordinals that are tried. That the search ends is not part of its
definition: identifiers are short, so a route could find all of its own taken, and then no index is
built.
-/

namespace RouteAtlas

/-- Why routes do not make an index. -/
inductive BuildFault where
  /-- The text behind an identifier cannot be encoded. -/
  | unencodable (fault : Utf8.EncodeFault)
  /-- A route is no valid record, or the records no valid index. -/
  | invalid (faults : List Fault)
  /-- Every identifier of a route is taken. -/
  | exhausted
  deriving DecidableEq, Repr

/-- The first identifier that is not taken, from an ordinal on. The search goes on for as long as it
takes; where every identifier is taken, it comes to nothing. -/
def Discovered.searchIdentifier (d : Discovered) (taken : List Text) (ordinal : Nat) :
    Option (Except BuildFault Text) :=
  match d.identifier ordinal with
  | .error fault => some (.error (.unencodable fault))
  | .ok id =>
    if taken.contains id then d |>.searchIdentifier taken (ordinal + 1) else some (.ok id)
partial_fixpoint

/-- The identifier of the least ordinal whose identifier is not taken. -/
def freeIdentifier (d : Discovered) (taken : List Text) : Except BuildFault Text :=
  (d.searchIdentifier taken 0).getD (.error .exhausted)

/-- A discovered route as a record with an identifier. -/
def Discovered.toRecord (d : Discovered) (id : Text) : Checked Record :=
  if line_pos : d.line < 1 then Checked.under (.key "line".toList) (.fail .tooSmall)
  else match Role.ofParts? d.kind d.method d.action with
    | .error fault => .fail (.refused (fault.message id))
    | .ok role =>
      if id_ne : id = [] then Checked.under (.key "id".toList) (.fail .textTooShort)
      else match d.path.toText? with
        | none => Checked.under (.key "path".toList) (.fail .textNotEncodable)
        | some path =>
          .ok ⟨id, path, ⟨d.file, d.line.toNat, by omega⟩, d.controller, role, id_ne⟩

/-- The records of discovered routes, after others whose identifiers are taken. -/
def recordsFrom (taken : List Text) : List Discovered → Except BuildFault (List Record)
  | [] => .ok []
  | d :: rest => do
    let id ← freeIdentifier d taken
    let record ← (d.toRecord id).mapError .invalid
    let records ← recordsFrom (id :: taken) rest
    pure (record :: records)

/-- The index of discovered routes. -/
def buildIndex (project : Project) (generatedAt : Text) (routes : List Discovered) :
    Except BuildFault Index := do
  let records ← recordsFrom [] routes
  match Index.ofParts? schemaVersion generatedAt project records with
  | .ok index => pure index
  | .error id =>
    .error (.invalid [⟨[], .refused ("Duplicate route id: ".toList ++ id)⟩])

end RouteAtlas
