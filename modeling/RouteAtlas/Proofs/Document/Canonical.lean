import Mathlib.Data.List.Forall2
import RouteAtlas.Proofs.Document.RoundTrip
import RouteAtlas.Proofs.Except
import RouteAtlas.Proofs.Text.CodeText

/-!
# Spellings of an index

Many documents stand for one index. `Index.IsSpelledBy` says which: a field stands under its key in
camel case or else under the one with low lines, what a route lacks is left out or null, a method is
written in any case, and a whole number in any form that counts as one. Nothing else is read
(`index_eq_ok_iff`), and what is read says nothing of how it was spelled: the document that is
written for it, the canonical one, is the same for all spellings and is one of them itself.

The relation follows the shape of a document from the inside out. Each part has one lemma that
says when its check succeeds, and the lemmas on `both`, `required` and `optional` put the parts
together.

Strings are sequences of code points here, for a document may hold halves of pairs, and most fields
take these. Only an identifier has to be a text, because it has to have a length, and so has the
name of a method. Whether what was read can be written down again is another question, and none of
the checks asks it: the canonical document exists for every index that is read, and is read back to
it.

A method and an action are not checked by themselves but together with the kind of their route. That
check is made on what was read and not on the document, so that it is no part of the spelling.
-/

namespace RouteAtlas

/-! ## Checks put together -/

namespace Checked

variable {α β : Type}

/-- Two checks succeed if both do. Otherwise the faults of both are told. -/
theorem both_eq_ok_iff {x : Checked α} {y : Checked β} {a : α} {b : β} :
    x.both y = .ok (a, b) ↔ x = .ok a ∧ y = .ok b := by
  cases x <;> cases y <;> simp [both]

/-- Where a check is made says something about its faults only. -/
theorem under_eq_ok_iff {step : Step} {x : Checked α} {a : α} : x.under step = .ok a ↔ x = .ok a :=
  Except.mapError_eq_ok

/-- A list is what its items are, each at its place. -/
theorem items_eq_ok_iff {check : β → Checked α} {place : Nat} {values : List β} {as : List α} :
    items check place values = .ok as ↔
      List.Forall₂ (fun a value => check value = .ok a) as values := by
  induction values generalizing place as with
  | nil =>
    rw [items, List.forall₂_nil_right_iff, Except.ok.injEq, eq_comm]
  | cons value values ih =>
    rw [items, List.forall₂_cons_right_iff]
    constructor
    · intro h
      -- The first item and the others are checked whatever becomes of each other.
      cases hboth : (under (.item place) (check value)).both (items check (place + 1) values) with
      | error faults =>
        rw [hboth] at h
        cases h
      | ok parts =>
        obtain ⟨a, rest⟩ := parts
        obtain ⟨ha, hrest⟩ := both_eq_ok_iff.mp hboth
        rw [hboth] at h
        cases h
        exact ⟨a, rest, under_eq_ok_iff.mp ha, ih.mp hrest, rfl⟩
    · intro h
      obtain ⟨a, rest, ha, hrest, rfl⟩ := h
      rw [both_eq_ok_iff.mpr ⟨under_eq_ok_iff.mpr ha, ih.mpr hrest⟩]
      rfl

end Checked

/-! ## Fields -/

namespace Field

variable {α : Type} {keys : List String} {fields : List (CodeText × Json)}

/-- The value under the first key that is there is as `p` has it. -/
def Tells (keys : List String) (fields : List (CodeText × Json)) (p : Json → Prop) : Prop :=
  ∃ key value, find keys fields = some (key, value) ∧ p value

/-- Nothing is told: no key is there, or there is null under the first that is. -/
def LeavesOut (keys : List String) (fields : List (CodeText × Json)) : Prop :=
  find keys fields = none ∨ Tells keys fields (· = .null)

/-- What there is, is told, and what there is not is left out. -/
def TellsOf (keys : List String) (fields : List (CodeText × Json)) (p : α → Json → Prop) :
    Option α → Prop
  | some a => Tells keys fields (p a)
  | none => LeavesOut keys fields

/-- The value is an object whose fields are as `p` has them. -/
def IsObject (p : List (CodeText × Json) → Prop) (value : Json) : Prop :=
  ∃ fields, value = .obj fields ∧ p fields

/-- What is asked of the fields may be put in another way. -/
theorem IsObject.congr {p q : List (CodeText × Json) → Prop} (h : ∀ fields, p fields ↔ q fields)
    {value : Json} : IsObject p value ↔ IsObject q value := by
  rw [funext fun fields => propext (h fields)]

/-- A field that has to be there is found under one of its keys. -/
theorem required_eq_ok_iff {check : Json → Checked α} {a : α} :
    required keys check fields = .ok a ↔ Tells keys fields fun value => check value = .ok a := by
  unfold required Tells
  cases hfind : find keys fields with
  | none => simp [Checked.under, Checked.fail, Except.mapError]
  | some row =>
    obtain ⟨key, value⟩ := row
    rw [Checked.under_eq_ok_iff]
    constructor
    · intro h
      exact ⟨key, value, rfl, h⟩
    · intro h
      obtain ⟨_, _, ⟨⟩, h⟩ := h
      exact h

/-- A field that may be left out has its default if it is under none of its keys. -/
theorem optional_eq_ok_iff {default : α} {check : Json → Checked α} {a : α} :
    optional keys default check fields = .ok a ↔
      find keys fields = none ∧ a = default ∨
        Tells keys fields fun value => check value = .ok a := by
  unfold optional Tells
  cases hfind : find keys fields with
  | none => simp [eq_comm]
  | some row =>
    obtain ⟨key, value⟩ := row
    rw [Checked.under_eq_ok_iff]
    constructor
    · intro h
      exact .inr ⟨key, value, rfl, h⟩
    · intro h
      rcases h with ⟨hnone, -⟩ | ⟨_, _, ⟨⟩, h⟩
      · cases hnone
      · exact h

/-- An optional field whose check takes null for nothing. -/
theorem optional_none_eq_ok_iff {check : Json → Checked (Option α)} {p : α → Json → Prop}
    (hcheck : ∀ value a?, check value = .ok a? ↔
      value = .null ∧ a? = none ∨ ∃ a, p a value ∧ a? = some a) {a? : Option α} :
    optional keys none check fields = .ok a? ↔ TellsOf keys fields p a? := by
  simp only [optional_eq_ok_iff, hcheck]
  cases a? with
  | none => simp [TellsOf, LeavesOut]
  | some a => simp [TellsOf]

/-- The value of a single key, as a document gives it. -/
theorem Tells.get? {key : String} {p : Json → Prop} (h : Tells [key] fields p) :
    p (((Json.obj fields).get? key).getD .null) := by
  obtain ⟨key', value, hfind, hvalue⟩ := h
  rw [find, List.findSome?_cons] at hfind
  cases hlookup : Json.lookupField (CodeText.ofString key) fields with
  | none =>
    rw [hlookup] at hfind
    cases hfind
  | some value' =>
    rw [hlookup] at hfind
    cases hfind
    rw [Json.get?, hlookup]
    exact hvalue

/-- An object is checked by its fields, and nothing else is an object. -/
theorem object_bind_eq_ok_iff {f : List (CodeText × Json) → Checked α} {value : Json} {a : α} :
    (object value >>= f) = .ok a ↔ IsObject (fun fields => f fields = .ok a) value := by
  cases value <;> simp [object, IsObject, Checked.fail, bind, Except.bind]

/-- A text is a string without halves of pairs. -/
theorem text_eq_ok_iff {value : Json} {t : Text} : text value = .ok t ↔ value = .text t := by
  cases value with
  | str s =>
    rw [Json.text, Json.str.injEq, ← CodeText.toText?_eq_some_iff, text]
    cases s.toText? <;> simp [Checked.fail]
  | _ => simp [text, Json.text, Checked.fail]

/-- An identifier is a text with at least one character. -/
theorem nonEmptyText_eq_ok_iff {value : Json} {t : { t : Text // t ≠ [] }} :
    nonEmptyText value = .ok t ↔ value = .text t.val := by
  rw [← text_eq_ok_iff, nonEmptyText]
  obtain ⟨t, ht⟩ := t
  cases text value with
  | error faults => simp
  | ok s =>
    by_cases hs : s = []
    · subst hs
      simpa [Checked.fail] using Ne.symm ht
    · simp [hs]

/-- A bound is looked at when the number is known. -/
theorem integerFrom_eq_ok_iff {least : Int} {value : Json} {n : { n : Int // least ≤ n }} :
    integerFrom least value = .ok n ↔ integer value = .ok n.val := by
  obtain ⟨n, hn⟩ := n
  rw [integerFrom]
  cases integer value with
  | error faults => simp
  | ok m =>
    by_cases hm : least ≤ m
    · simp [hm]
    · have hne : m ≠ n := fun heq => hm (heq ▸ hn)
      simp [hm, hne, Checked.fail]

theorem codeText_eq_ok_iff {value : Json} {s : CodeText} :
    codeText value = .ok s ↔ value = .str s := by
  cases value <;> simp [codeText, Checked.fail]

theorem optionalCodeText_eq_ok_iff (value : Json) (s? : Option CodeText) :
    optionalCodeText value = .ok s? ↔
      value = .null ∧ s? = none ∨ ∃ s, value = .str s ∧ s? = some s := by
  cases value <;> simp [optionalCodeText, codeText, Checked.fail, Except.map, eq_comm]

end Field

/-! ## Spellings -/

/-- The value names a method, in any case. -/
def Method.IsNamedBy (m : Method) (value : Json) : Prop :=
  ∃ name, value = .text name ∧ Text.upper name = m.name

/-- The fields tell where a route is declared. -/
structure Source.IsToldBy (s : Source CodePoint) (fields : List (CodeText × Json)) : Prop where
  file : Field.Tells ["file"] fields (· = .str s.file)
  line : Field.Tells ["line"] fields fun value => Field.integer value = .ok s.line

/-- The fields tell the controller and the action of a route. -/
structure SymbolsAreToldBy (controller : CodeText) (action : Option CodeText)
    (fields : List (CodeText × Json)) : Prop where
  controller : Field.Tells ["controller"] fields (· = .str controller)
  action : Field.TellsOf ["action"] fields (fun action value => value = .str action) action

/-- The fields tell of a route. -/
structure Record.IsToldBy (r : Record CodePoint) (fields : List (CodeText × Json)) : Prop where
  id : Field.Tells ["id"] fields (· = .text r.id)
  kind : Field.Tells ["type", "kind"] fields (· = .text r.kind.tag)
  method : Field.TellsOf ["httpMethod", "http_method"] fields Method.IsNamedBy r.method?
  path : Field.Tells ["path"] fields (· = .str r.path) ∨ Field.LeavesOut ["path"] fields ∧ r.path = []
  source : Field.Tells ["source"] fields (Field.IsObject r.source.IsToldBy)
  symbols : Field.Tells ["symbols"] fields (Field.IsObject (SymbolsAreToldBy r.controller r.action?))

/-- The fields tell what was indexed. -/
structure Project.IsToldBy (p : Project CodePoint) (fields : List (CodeText × Json)) : Prop where
  root : Field.Tells ["root"] fields (· = .str p.root)
  language : Field.Tells ["language"] fields (· = .str p.language)
  framework : Field.Tells ["framework"] fields (· = .str p.framework)

/-- The value is a list that tells of these routes, in this order. -/
def RoutesAreToldBy (routes : List (Record CodePoint)) (value : Json) : Prop :=
  ∃ items, value = .arr items ∧
    List.Forall₂ (fun r item => Field.IsObject (Record.IsToldBy r) item) routes items

/-- The fields tell all of an index. -/
structure Index.IsToldBy (i : Index CodePoint) (fields : List (CodeText × Json)) : Prop where
  version : Field.Tells ["version"] fields fun value => Field.integer value = .ok i.version
  generatedAt : Field.Tells ["generatedAt", "generated_at"] fields (· = .str i.generatedAt)
  project : Field.Tells ["project"] fields (Field.IsObject i.project.IsToldBy)
  routes : Field.Tells ["routes"] fields (RoutesAreToldBy i.routes) ∨
    Field.find ["routes"] fields = none ∧ i.routes = []

/-- The document is a spelling of the index. -/
def Index.IsSpelledBy (i : Index CodePoint) (document : Json) : Prop :=
  Field.IsObject i.IsToldBy document

/-! ## What is read -/

namespace Decode

theorem kind_eq_ok_iff {value : Json} {k : Kind} : kind value = .ok k ↔ value = .text k.tag := by
  constructor
  · intro h
    cases value with
    | str s =>
      rw [kind] at h
      split at h
      next k' hk' =>
        cases h
        obtain ⟨t, ht, hk⟩ := Option.bind_eq_some_iff.mp hk'
        have htag : k.tag = t := by
          have := List.find?_some hk
          simpa using this
        rw [CodeText.toText?_eq_some_iff.mp ht, ← htag]
        rfl
      next => cases h
    | _ => cases h
  · intro h
    rw [h]
    exact kind_text k

theorem ofName?_eq_some_iff {name : Text} {m : Method} :
    Method.ofName? name = some m ↔ name = m.name := by
  constructor
  · intro h
    have hfound := List.find?_some h
    exact (beq_iff_eq.mp hfound).symm
  · intro h
    rw [h]
    cases m <;> rfl

/-- A method is spelled by every string that is its name in capitals, or left out by null. -/
theorem method_eq_ok_iff (value : Json) (m? : Option Method) :
    method value = .ok m? ↔
      value = .null ∧ m? = none ∨ ∃ m : Method, m.IsNamedBy value ∧ m? = some m := by
  cases value with
  | null =>
    simp [method, Method.IsNamedBy, Json.text, eq_comm]
  | str s =>
    have hbind (m : Method) :
        (s.toText?.bind fun name => Method.ofName? (Text.upper name)) = some m ↔
          m.IsNamedBy (.str s) := by
      simp only [Option.bind_eq_some_iff, CodeText.toText?_eq_some_iff, ofName?_eq_some_iff,
        Method.IsNamedBy, Json.text, Json.str.injEq]
    rw [method]
    split
    next m hm =>
      -- The string spells some method, and it can be no other one.
      simp only [reduceCtorEq, false_and, false_or, ← hbind, hm, Except.ok.injEq, Option.some.injEq]
      constructor
      · intro h
        exact ⟨m, rfl, h.symm⟩
      · intro h
        obtain ⟨m', hm', h⟩ := h
        rw [h, hm']
    next hnone => simp [Checked.fail, ← hbind, hnone]
  | _ => simp [method, Method.IsNamedBy, Json.text, Checked.fail]

theorem path_eq_ok_iff {value : Json} {p : CodeText} :
    path value = .ok p ↔ value = .str p ∨ value = .null ∧ p = [] := by
  cases value with
  | null => simp [path, eq_comm]
  | _ => simp [path, Field.codeText_eq_ok_iff]

/-- A path that is left out has none either, so that null and nothing are one. -/
theorem optional_path_eq_ok_iff {fields : List (CodeText × Json)} {p : CodeText} :
    Field.optional ["path"] [] path fields = .ok p ↔
      Field.Tells ["path"] fields (· = .str p) ∨ Field.LeavesOut ["path"] fields ∧ p = [] := by
  simp only [Field.optional_eq_ok_iff, path_eq_ok_iff]
  constructor
  · intro h
    rcases h with ⟨hnone, hp⟩ | ⟨key, value, hfind, rfl | ⟨rfl, hp⟩⟩
    · exact .inr ⟨.inl hnone, hp⟩
    · exact .inl ⟨key, _, hfind, rfl⟩
    · exact .inr ⟨.inr ⟨key, _, hfind, rfl⟩, hp⟩
  · intro h
    rcases h with ⟨key, value, hfind, hvalue⟩ | ⟨hnone | ⟨key, value, hfind, hvalue⟩, hp⟩
    · exact .inr ⟨key, value, hfind, .inl hvalue⟩
    · exact .inl ⟨hnone, hp⟩
    · exact .inr ⟨key, value, hfind, .inr ⟨hvalue, hp⟩⟩

/-- The place of a route: a file and a line from 1 on. -/
theorem source_eq_ok_iff {value : Json} {s : Source CodePoint} :
    source value = .ok s ↔ Field.IsObject s.IsToldBy value := by
  rw [source, Field.object_bind_eq_ok_iff]
  refine Field.IsObject.congr fun fields => ?_
  simp only [Except.bind_eq_ok, Prod.exists, Checked.both_eq_ok_iff, Field.required_eq_ok_iff,
    Field.codeText_eq_ok_iff, Field.integerFrom_eq_ok_iff]
  constructor
  · intro h
    obtain ⟨file, ⟨line, hpos⟩, ⟨hfile, hline⟩, h⟩ := h
    cases h
    have hcast : ((line.toNat : Nat) : Int) = line := by omega
    exact ⟨hfile, by rw [hcast]; exact hline⟩
  · intro h
    obtain ⟨file, line, hpos⟩ := s
    exact ⟨file, ⟨line, by omega⟩, ⟨h.file, h.line⟩, rfl⟩

/-- The symbols of a route, the second of which may be left out. -/
theorem symbols_eq_ok_iff {value : Json} {controller : CodeText} {action : Option CodeText} :
    symbols value = .ok (controller, action) ↔
      Field.IsObject (SymbolsAreToldBy controller action) value := by
  rw [symbols, Field.object_bind_eq_ok_iff]
  refine Field.IsObject.congr fun fields => ?_
  simp only [Checked.both_eq_ok_iff, Field.required_eq_ok_iff, Field.codeText_eq_ok_iff,
    Field.optional_none_eq_ok_iff Field.optionalCodeText_eq_ok_iff]
  constructor
  · intro h
    exact ⟨h.1, h.2⟩
  · intro h
    exact ⟨h.controller, h.action⟩

/-- **A route**: its parts, and a role that they make together. -/
theorem record_eq_ok_iff {value : Json} {r : Record CodePoint} :
    record value = .ok r ↔ Field.IsObject r.IsToldBy value := by
  rw [record, Field.object_bind_eq_ok_iff]
  refine Field.IsObject.congr fun fields => ?_
  simp only [Except.bind_eq_ok, Prod.exists, Checked.both_eq_ok_iff, Field.required_eq_ok_iff,
    Field.nonEmptyText_eq_ok_iff, kind_eq_ok_iff, source_eq_ok_iff, symbols_eq_ok_iff,
    Field.optional_none_eq_ok_iff method_eq_ok_iff, optional_path_eq_ok_iff]
  constructor
  · intro h
    obtain ⟨id, kind, method, path, source, controller, action, htold, h⟩ := h
    obtain ⟨hid, hkind, hmethod, hpath, hsource, hsymbols⟩ := htold
    split at h
    next role hrole =>
      cases h
      -- The kind, the method and the action that were read are those of the role they make.
      obtain ⟨rfl, rfl, rfl⟩ := (Role.ofParts?_eq_ok_iff
        (r := ⟨id.val, path, source, controller, role, id.property⟩)).mp hrole
      exact ⟨hid, hkind, hmethod, hpath, hsource, hsymbols⟩
    next => cases h
  · intro h
    refine ⟨⟨r.id, r.id_ne⟩, r.kind, r.method?, r.path, r.source, r.controller, r.action?,
      ⟨h.id, h.kind, h.method, h.path, h.source, h.symbols⟩, ?_⟩
    rw [Role.ofParts?_eq_ok_iff.mpr ⟨rfl, rfl, rfl⟩]

theorem project_eq_ok_iff {value : Json} {p : Project CodePoint} :
    project value = .ok p ↔ Field.IsObject p.IsToldBy value := by
  rw [project, Field.object_bind_eq_ok_iff]
  refine Field.IsObject.congr fun fields => ?_
  simp only [Except.bind_eq_ok, Prod.exists, Checked.both_eq_ok_iff, Field.required_eq_ok_iff,
    Field.codeText_eq_ok_iff]
  constructor
  · intro h
    obtain ⟨root, language, framework, ⟨hroot, hlanguage, hframework⟩, h⟩ := h
    cases h
    exact ⟨hroot, hlanguage, hframework⟩
  · intro h
    exact ⟨p.root, p.language, p.framework, ⟨h.root, h.language, h.framework⟩, rfl⟩

/-- The routes of an index, which may be left out altogether. -/
theorem routes_eq_ok_iff {value : Json} {records : List (Record CodePoint)} :
    routes value = .ok records ↔ RoutesAreToldBy records value := by
  cases value with
  | arr items =>
    simp only [routes, Field.list, RoutesAreToldBy, Json.arr.injEq, exists_eq_left', bind,
      Except.bind, Checked.items_eq_ok_iff, record_eq_ok_iff]
  | _ => simp [routes, Field.list, RoutesAreToldBy, Checked.fail, bind, Except.bind]

/-- **What is read.** An index is read exactly from its spellings. -/
theorem index_eq_ok_iff {document : Json} {i : Index CodePoint} :
    index document = .ok i ↔ i.IsSpelledBy document := by
  rw [index, Field.object_bind_eq_ok_iff]
  refine Field.IsObject.congr fun fields => ?_
  simp only [Except.bind_eq_ok, Prod.exists, Checked.both_eq_ok_iff, Field.required_eq_ok_iff,
    Field.codeText_eq_ok_iff, project_eq_ok_iff, Field.optional_eq_ok_iff, routes_eq_ok_iff]
  constructor
  · intro h
    obtain ⟨version, generatedAt, project, records, htold, h⟩ := h
    obtain ⟨hversion, hgeneratedAt, hproject, hroutes⟩ := htold
    split at h
    next i' hi' =>
      cases h
      obtain ⟨rfl, rfl, rfl, rfl⟩ := Index.parts_of_ofParts? hi'
      exact ⟨hversion, hgeneratedAt, hproject, hroutes.symm⟩
    next => cases h
  · intro h
    refine ⟨i.version, i.generatedAt, i.project, i.routes,
      ⟨h.version, h.generatedAt, h.project, h.routes.symm⟩, ?_⟩
    rw [Index.ofParts?_self]

end Decode

/-! ## Canonical documents -/

/-- The document that is written for what is read from a document. -/
def canonical (document : Json) : Checked Json := (Decode.index document).map Encode.index

theorem canonical_eq_ok_iff {document : Json} {i : Index CodePoint} :
    canonical document = .ok (Encode.index i) ↔ i.IsSpelledBy document := by
  rw [← Decode.index_eq_ok_iff, canonical]
  cases h : Decode.index document with
  | error faults => simp [Except.map]
  | ok j =>
    have hinj : Encode.index j = Encode.index i ↔ j = i := by
      constructor
      · intro heq
        have hread := congrArg Decode.index heq
        rwa [Decode.index_index, Decode.index_index, Except.ok.injEq] at hread
      · intro heq
        rw [heq]
    simp [Except.map, hinj]

/-- **Canonical documents.** Every index is read back from its document. Whatever document an index
is read from, its canonical document is that of the index, which is canonical already; and exactly
the spellings of the index have it. -/
theorem canonical_is_settled :
    (∀ i : Index CodePoint, Decode.index (Encode.index i) = .ok i) ∧
      ∀ (document : Json) (i : Index CodePoint), Decode.index document = .ok i →
        canonical document = .ok (Encode.index i) ∧
        canonical (Encode.index i) = .ok (Encode.index i) ∧
        ∀ other, canonical other = .ok (Encode.index i) ↔ i.IsSpelledBy other := by
  constructor
  · exact Decode.index_index
  · intro document i h
    have hself : i.IsSpelledBy (Encode.index i) := Decode.index_eq_ok_iff.mp (Decode.index_index i)
    refine ⟨canonical_eq_ok_iff.mpr (Decode.index_eq_ok_iff.mp h), canonical_eq_ok_iff.mpr hself, ?_⟩
    intro other
    exact canonical_eq_ok_iff

/-- A document that spells an index in many ways at once; its time is half of a surrogate pair. -/
def looseDocument : Json :=
  .fields
    [("version", .string " +0_1.0 "), ("generated_at", .str [.lone 0]),
     ("project", .fields
       [("root", .string "/r"), ("language", .string "python"), ("framework", .string "python")]),
     ("routes", .arr
       [.fields
          [("id", .string "a"), ("kind", .string "controller"), ("http_method", .null),
           ("source", .fields [("line", .bool true), ("file", .string "m.py")]),
           ("symbols", .fields [("controller", .string "m"), ("action", .null)])],
        .fields
          [("id", .string "b"), ("type", .string "endpoint"), ("httpMethod", .string "pAtCh"),
           ("path", .null), ("more", .null),
           ("source", .fields [("file", .string "m.py"), ("line", .float (.ofInt 7))]),
           ("symbols", .fields [("controller", .string "m"), ("action", .string "f")])]])]

/-- The index that is spelled. -/
def looseIndex : Index CodePoint where
  version := 1
  generatedAt := [.lone 0]
  project :=
    ⟨CodeText.ofString "/r", CodeText.ofString "python", CodeText.ofString "python"⟩
  routes :=
    [⟨"a".toList, [], ⟨CodeText.ofString "m.py", 1, by decide⟩, CodeText.ofString "m",
       .controller, by decide⟩,
     ⟨"b".toList, [], ⟨CodeText.ofString "m.py", 7, by decide⟩, CodeText.ofString "m",
       .endpoint .patch (CodeText.ofString "f") (by decide), by decide⟩]
  distinct := by decide

theorem canonical_is_settled_loosely :
    Decode.index looseDocument = .ok looseIndex ∧
      canonical looseDocument = .ok (Encode.index looseIndex) ∧
      canonical (Encode.index looseIndex) = .ok (Encode.index looseIndex) := by
  have hread : Decode.index looseDocument = .ok looseIndex := by rfl
  obtain ⟨hcanonical, hsettled, -⟩ := canonical_is_settled.2 looseDocument looseIndex hread
  exact ⟨hread, hcanonical, hsettled⟩

end RouteAtlas
