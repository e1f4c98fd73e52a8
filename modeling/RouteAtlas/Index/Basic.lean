import RouteAtlas.Route.Record

/-!
# The route index

All routes of a repository, with what they were found in. No two routes of an index share an
identifier. Like records, indexes are made of characters or of code points.

That identifiers are distinct is part of the type, so whoever makes an index has to show it.
`Index.ofParts?` finds it out, and names the first identifier that comes twice.

An index of characters is one of code points without further ado (`Index.coded`). The other way
round is partial (`Index.plain?`): what is searched, listed and printed are indexes of characters.
-/

namespace RouteAtlas

/-- What was indexed. -/
structure Project (α : Type := Char) where
  root : List α
  language : List α
  framework : List α
  deriving DecidableEq, Repr

/-- The routes of a repository. -/
structure Index (α : Type := Char) where
  version : Int
  generatedAt : List α
  project : Project α
  routes : List (Record α)
  distinct : (routes.map Record.id).Nodup
  deriving DecidableEq, Repr

/-- The version of the indexes that are written, and the only one that is read back. -/
def schemaVersion : Int := 1

/-- The controllers of an index, in order. -/
def Index.controllers {α : Type} (index : Index α) : List (Record α) :=
  index.routes.filter fun r => r.kind == .controller

/-- The endpoints of an index, in order. -/
def Index.endpoints {α : Type} (index : Index α) : List (Record α) :=
  index.routes.filter fun r => r.kind == .endpoint

/-- The index with the given parts, or the first identifier that repeats an earlier one. -/
def Index.ofParts? {α : Type} (version : Int) (generatedAt : List α) (project : Project α)
    (routes : List (Record α)) : Except Text (Index α) :=
  match h : firstRepeated [] (routes.map Record.id) with
  | some id => .error id
  | none => .ok ⟨version, generatedAt, project, routes, (firstRepeated_eq_none h).1⟩

/-! ## Code points -/

/-- The same, in code points. -/
def Project.coded (p : Project) : Project CodePoint :=
  ⟨CodeText.ofText p.root, CodeText.ofText p.language, CodeText.ofText p.framework⟩

/-- The same index, in code points. -/
def Index.coded (i : Index) : Index CodePoint where
  version := i.version
  generatedAt := CodeText.ofText i.generatedAt
  project := i.project.coded
  routes := i.routes.map Record.coded
  distinct := by
    rw [List.map_map]
    exact i.distinct

/-- An index of characters counts as one of code points. -/
instance : Coe Index (Index CodePoint) := ⟨Index.coded⟩

/-- The index in characters, unless a half of a pair stands in it. -/
def Index.plain? (i : Index CodePoint) : Option Index := do
  let generatedAt ← CodeText.toText? i.generatedAt
  let root ← CodeText.toText? i.project.root
  let language ← CodeText.toText? i.project.language
  let framework ← CodeText.toText? i.project.framework
  let routes ← i.routes.mapM Record.plain?
  (Index.ofParts? i.version generatedAt ⟨root, language, framework⟩ routes).toOption

end RouteAtlas
