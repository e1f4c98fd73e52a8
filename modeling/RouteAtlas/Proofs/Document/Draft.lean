import RouteAtlas.Proofs.Document.Canonical

/-!
# Which documents are indexes

A *draft* is what a document says before anything of it is judged: every field is there with a value
of its type, as far as it has to be, and nothing else is known. Of the documents that spell a draft,
exactly those are indexes whose draft is sound, which is said in terms of the draft alone
(`index_isOk_iff_isSound`).

Between the two stand the records: a record `Realizes` a draft if it says the same. A spelling of a
draft spells just the records that realize it (`Record.Draft.isToldBy_iff`), and there is such a
record just if the draft is sound (`Record.Draft.exists_realizes_iff`).

What makes a draft sound is a matter of single routes, but for one thing: identifiers are distinct.
So the routes are realized one by one, and only the list of what realizes them is asked for
repetitions, which are those of the draft since identifiers are taken over
(`map_id_of_forall₂_realizes`).
-/

namespace RouteAtlas

/-- Where each item is known to some extent, so is what else the list is. -/
theorem forall₂_iff_of {α β γ : Type} {p : β → γ → Prop} {q : α → γ → Prop} {r : α → β → Prop}
    {as : List α} {bs : List β} {cs : List γ} (h : List.Forall₂ p bs cs)
    (hq : ∀ a b c, p b c → (q a c ↔ r a b)) : List.Forall₂ q as cs ↔ List.Forall₂ r as bs := by
  induction h generalizing as with
  | nil => rw [List.forall₂_nil_right_iff, List.forall₂_nil_right_iff]
  | cons hbc _ ih =>
    rw [List.forall₂_cons_right_iff, List.forall₂_cons_right_iff]
    simp only [hq _ _ _ hbc, ih]

/-- Equal strings are strings of equal texts. -/
theorem Json.text_inj {s t : Text} : Json.text s = Json.text t ↔ s = t := by
  rw [← Field.text_eq_ok_iff, Field.text_text, Except.ok.injEq]

namespace Field

variable {α β : Type} {keys : List String} {fields : List (CodeText × Json)}

/-- Where the value under the keys is known to some extent, so is what else they tell. -/
theorem Tells.iff_of {p q : Json → Prop} {c : Prop} (h : Tells keys fields p)
    (hq : ∀ value, p value → (q value ↔ c)) : Tells keys fields q ↔ c := by
  obtain ⟨key, value, hfind, hvalue⟩ := h
  constructor
  · intro htold
    obtain ⟨key', value', hfind', hvalue'⟩ := htold
    rw [hfind] at hfind'
    cases hfind'
    exact (hq value hvalue).mp hvalue'
  · intro hc
    exact ⟨key, value, hfind, (hq value hvalue).mpr hc⟩

theorem Tells.text_iff {s t : Text} (h : Tells keys fields (· = .text t)) :
    Tells keys fields (· = .text s) ↔ s = t :=
  h.iff_of fun value hvalue => by rw [hvalue, Json.text_inj, eq_comm]

theorem Tells.str_iff {s t : CodeText} (h : Tells keys fields (· = .str t)) :
    Tells keys fields (· = .str s) ↔ s = t :=
  h.iff_of fun value hvalue => by rw [hvalue, Json.str.injEq, eq_comm]

theorem Tells.integer_iff {m n : Int} (h : Tells keys fields (· = .int n)) :
    (Tells keys fields fun value => integer value = .ok m) ↔ m = n :=
  h.iff_of fun value hvalue => by rw [hvalue, integer, Except.ok.injEq, eq_comm]

/-- A field that tells something is not left out. -/
theorem Tells.find_ne_none {p : Json → Prop} (h : Tells keys fields p) :
    find keys fields ≠ none := by
  obtain ⟨key, value, hfind, -⟩ := h
  rw [hfind]
  exact Option.some_ne_none _

/-- What is asked of an object is asked of the fields it has. -/
theorem IsObject.iff_of {p q : List (CodeText × Json) → Prop} {c : Prop} {value : Json}
    (h : IsObject p value) (hq : ∀ fields, p fields → (q fields ↔ c)) : IsObject q value ↔ c := by
  obtain ⟨fields, rfl, hfields⟩ := h
  constructor
  · intro hother
    obtain ⟨_, ⟨⟩, hother⟩ := hother
    exact (hq fields hfields).mp hother
  · intro hc
    exact ⟨fields, rfl, (hq fields hfields).mpr hc⟩

/-- Where something is told or left out, so is whatever comes of it: the one is there if the other
is, and made of it. What is told has spellings of its own, none of which is null. -/
theorem TellsOf.iff_map_eq {γ : Type} {spell : γ → Json} (hspell : Function.Injective spell)
    (hthere : ∀ t, spell t ≠ .null) {p : α → Json → Prop} {f : α → β} {g : γ → β} {t? : Option γ}
    (h : TellsOf keys fields (fun t value => value = spell t) t?)
    (hp : ∀ a value, p a value ↔ ∃ t, value = spell t ∧ g t = f a) {a? : Option α} :
    TellsOf keys fields p a? ↔ a?.map f = t?.map g := by
  have hnull (a : α) : ¬ p a .null := by
    rw [hp]
    exact fun ⟨t, hvalue, _⟩ => hthere t hvalue.symm
  have hspelled (a : α) (t : γ) : p a (spell t) ↔ g t = f a := by
    simp [hp, hspell.eq_iff]
  cases t? with
  | none =>
    cases a? with
    | none => exact iff_of_true h rfl
    | some a =>
      -- Either no key is there, or there is null, which tells of no `a`.
      refine iff_of_false (fun htold => ?_) nofun
      rcases h with hnone | hleft
      · exact Tells.find_ne_none htold hnone
      · exact (hleft.iff_of (c := False) fun value hvalue =>
          iff_of_false (hvalue ▸ hnull a) id).mp htold
  | some t =>
    have htold : Tells keys fields (· = spell t) := h
    cases a? with
    | none =>
      -- Something is there, so the key is not missing, and what is there is not null.
      refine iff_of_false (fun hleft => ?_) nofun
      rcases hleft with hnone | hleft
      · exact htold.find_ne_none hnone
      · exact (htold.iff_of (c := False) fun value hvalue =>
          iff_of_false (by rw [hvalue]; exact hthere t) id).mp hleft
    | some a =>
      rw [Option.map_some, Option.map_some, Option.some.injEq, eq_comm (a := f a), ← hspelled]
      exact htold.iff_of fun value hvalue => by rw [hvalue]

/-- A string that may be left out is there or not. -/
theorem TellsOf.str_iff {t? : Option CodeText}
    (h : TellsOf keys fields (fun t value => value = .str t) t?) (s? : Option CodeText) :
    TellsOf keys fields (fun t value => value = .str t) s? ↔ s? = t? := by
  have hmap : TellsOf keys fields (fun t value => value = .str t) s? ↔ s?.map id = t?.map id :=
    h.iff_map_eq (fun _ _ => Json.str.inj) (fun _ => nofun) (by simp)
  simpa using hmap

end Field

/-! ### Drafts -/

/-- What a document says of a route, before it is judged. -/
structure Record.Draft where
  id : Text
  kind : Text
  method : Option Text
  path : Option CodeText
  file : CodeText
  line : Int
  controller : CodeText
  action : Option CodeText

/-- What a document says of a repository, before it is judged. -/
structure Index.Draft where
  version : Int
  generatedAt : CodeText
  project : Project CodePoint
  routes : List Record.Draft

/-- The fields tell where the route is declared. -/
structure Record.Draft.SourceIsToldBy (d : Record.Draft) (fields : List (CodeText × Json)) :
    Prop where
  file : Field.Tells ["file"] fields (· = .str d.file)
  line : Field.Tells ["line"] fields (· = .int d.line)

/-- The fields tell of the route, each with a value of its type. -/
structure Record.Draft.IsToldBy (d : Record.Draft) (fields : List (CodeText × Json)) : Prop where
  id : Field.Tells ["id"] fields (· = .text d.id)
  kind : Field.Tells ["type", "kind"] fields (· = .text d.kind)
  method : Field.TellsOf ["httpMethod", "http_method"] fields
    (fun name value => value = .text name) d.method
  path : Field.TellsOf ["path"] fields (fun path value => value = .str path) d.path
  source : Field.Tells ["source"] fields (Field.IsObject d.SourceIsToldBy)
  symbols : Field.Tells ["symbols"] fields (Field.IsObject (SymbolsAreToldBy d.controller d.action))

/-- The value is a list that tells of these routes, in this order. -/
def Record.Draft.AreToldBy (drafts : List Record.Draft) (value : Json) : Prop :=
  ∃ items, value = .arr items ∧
    List.Forall₂ (fun d item => Field.IsObject (Record.Draft.IsToldBy d) item) drafts items

/-- The fields tell of the repository, each with a value of its type. -/
structure Index.Draft.IsToldBy (d : Index.Draft) (fields : List (CodeText × Json)) : Prop where
  version : Field.Tells ["version"] fields (· = .int d.version)
  generatedAt : Field.Tells ["generatedAt", "generated_at"] fields (· = .str d.generatedAt)
  project : Field.Tells ["project"] fields (Field.IsObject d.project.IsToldBy)
  routes : Field.Tells ["routes"] fields (Record.Draft.AreToldBy d.routes) ∨
    Field.find ["routes"] fields = none ∧ d.routes = []

/-- The document is a spelling of the draft. -/
def Index.Draft.IsSpelledBy (d : Index.Draft) (document : Json) : Prop :=
  Field.IsObject d.IsToldBy document

/-- What is said of a route is what an index may say. -/
structure Record.Draft.IsSound (d : Record.Draft) : Prop where
  id_ne : d.id ≠ []
  line_pos : 1 ≤ d.line
  kind : d.kind = "controller".toList ∨ d.kind = "endpoint".toList
  method : ∀ name ∈ d.method, ∃ m : Method, Text.upper name = m.name
  of_endpoint : d.kind = "endpoint".toList → d.method ≠ none ∧ ∃ action ∈ d.action, action ≠ []
  of_controller : d.kind = "controller".toList → d.method = none ∧ d.action = none

/-- All that is said is what an index may say: each route by itself, and no two have one
identifier. -/
structure Index.Draft.IsSound (d : Index.Draft) : Prop where
  routes : ∀ r ∈ d.routes, r.IsSound
  distinct : (d.routes.map Record.Draft.id).Nodup

/-! ### Records that say the same -/

/-- The record says what the draft says, with an empty path where there is none. -/
structure Record.Realizes (r : Record CodePoint) (d : Record.Draft) : Prop where
  id : r.id = d.id
  kind : r.kind.tag = d.kind
  method : r.method?.map Method.name = d.method.map Text.upper
  path : r.path = d.path.getD []
  file : r.source.file = d.file
  line : (r.source.line : Int) = d.line
  controller : r.controller = d.controller
  action : r.action? = d.action

namespace Record.Draft

variable {d : Record.Draft} {fields : List (CodeText × Json)}

/-- A path that is left out has no characters. -/
theorem path_iff {path : CodeText} (h : d.IsToldBy fields) :
    Field.Tells ["path"] fields (· = .str path) ∨ Field.LeavesOut ["path"] fields ∧ path = [] ↔
      path = d.path.getD [] := by
  have hthere : Field.Tells ["path"] fields (· = .str path) ↔ some path = d.path :=
    h.path.str_iff (some path)
  have hleft : Field.LeavesOut ["path"] fields ↔ none = d.path := h.path.str_iff none
  rw [hthere, hleft]
  cases d.path <;> simp

/-- The place of a route is that of the draft. -/
theorem source_iff {s : Source CodePoint} (h : d.SourceIsToldBy fields) :
    s.IsToldBy fields ↔ s.file = d.file ∧ (s.line : Int) = d.line := by
  rw [← h.file.str_iff, ← h.line.integer_iff]
  exact ⟨fun htold => ⟨htold.file, htold.line⟩, fun htold => ⟨htold.1, htold.2⟩⟩

theorem symbols_iff {controller : CodeText} {action : Option CodeText}
    (h : SymbolsAreToldBy d.controller d.action fields) :
    SymbolsAreToldBy controller action fields ↔ controller = d.controller ∧ action = d.action := by
  rw [← h.controller.str_iff, ← h.action.str_iff]
  exact ⟨fun htold => ⟨htold.controller, htold.action⟩, fun htold => ⟨htold.1, htold.2⟩⟩

/-- Where a draft is told, just those records are told that realize it. -/
theorem isToldBy_iff {r : Record CodePoint} (h : d.IsToldBy fields) :
    r.IsToldBy fields ↔ r.Realizes d := by
  have hmethod : Field.TellsOf ["httpMethod", "http_method"] fields Method.IsNamedBy r.method? ↔
      r.method?.map Method.name = d.method.map Text.upper :=
    h.method.iff_map_eq (fun _ _ => Json.text_inj.mp) (fun _ => nofun) fun _ _ => Iff.rfl
  have hsource : Field.Tells ["source"] fields (Field.IsObject r.source.IsToldBy) ↔
      r.source.file = d.file ∧ (r.source.line : Int) = d.line :=
    h.source.iff_of fun _ hvalue => hvalue.iff_of fun _ hfields => source_iff hfields
  have hsymbols : Field.Tells ["symbols"] fields
        (Field.IsObject (SymbolsAreToldBy r.controller r.action?)) ↔
      r.controller = d.controller ∧ r.action? = d.action :=
    h.symbols.iff_of fun _ hvalue => hvalue.iff_of fun _ hfields => symbols_iff hfields
  constructor
  · intro htold
    obtain ⟨hfile, hline⟩ := hsource.mp htold.source
    obtain ⟨hcontroller, haction⟩ := hsymbols.mp htold.symbols
    exact ⟨h.id.text_iff.mp htold.id, h.kind.text_iff.mp htold.kind, hmethod.mp htold.method,
      (path_iff h).mp htold.path, hfile, hline, hcontroller, haction⟩
  · intro hr
    exact ⟨h.id.text_iff.mpr hr.id, h.kind.text_iff.mpr hr.kind, hmethod.mpr hr.method,
      (path_iff h).mpr hr.path, hsource.mpr ⟨hr.file, hr.line⟩,
      hsymbols.mpr ⟨hr.controller, hr.action⟩⟩

/-- What a record says is sound: it has a line, an identifier, and a role. -/
theorem isSound_of_realizes {r : Record CodePoint} (h : r.Realizes d) : d.IsSound := by
  -- The role of the record has what the kind of the draft asks for; the rest every record has.
  have hmethod : ∀ name ∈ d.method, ∃ m : Method, Text.upper name = m.name := by
    intro name hname
    have hupper := h.method
    rw [Option.mem_def.mp hname, Option.map_some, Option.map_eq_some_iff] at hupper
    obtain ⟨m, -, hm⟩ := hupper
    exact ⟨m, hm.symm⟩
  have hline : 1 ≤ d.line := by
    have := r.source.line_pos
    rw [← h.line]
    omega
  obtain ⟨hid, hkind, hupper, -, -, -, -, haction⟩ := h
  obtain ⟨id, path, source, controller, role, hne⟩ := r
  cases role with
  | controller =>
    have hcontroller : d.kind = "controller".toList := hkind.symm
    refine ⟨hid ▸ hne, hline, .inl hcontroller, hmethod, fun hendpoint => ?_, fun _ => ?_⟩
    · exact absurd (hcontroller.symm.trans hendpoint) (by decide)
    · exact ⟨Option.map_eq_none_iff.mp hupper.symm, haction.symm⟩
  | endpoint method action haction_ne =>
    have hendpoint : d.kind = "endpoint".toList := hkind.symm
    refine ⟨hid ▸ hne, hline, .inr hendpoint, hmethod, fun _ => ⟨?_, ?_⟩, fun hcontroller => ?_⟩
    · intro hnone
      rw [hnone] at hupper
      cases hupper
    · exact ⟨action, haction.symm, haction_ne⟩
    · exact absurd (hendpoint.symm.trans hcontroller) (by decide)

/-- What is sound can be said by a record. Its role is what the kind asks for. -/
theorem IsSound.exists_realizes (h : d.IsSound) : ∃ r : Record CodePoint, r.Realizes d := by
  have hpos := h.line_pos
  have hline : ((d.line.toNat : Nat) : Int) = d.line := Int.toNat_of_nonneg (by omega)
  let source : Source CodePoint := ⟨d.file, d.line.toNat, by omega⟩
  -- The kind says which role to take, and what it asks for is what the role is made of.
  rcases h.kind with hkind | hkind
  · obtain ⟨hmethod, haction⟩ := h.of_controller hkind
    exact ⟨⟨d.id, d.path.getD [], source, d.controller, .controller, h.id_ne⟩, rfl, hkind.symm,
      by rw [hmethod]; rfl, rfl, rfl, hline, rfl, haction.symm⟩
  · obtain ⟨hmethod, action, haction, hne⟩ := h.of_endpoint hkind
    obtain ⟨name, hname⟩ := Option.ne_none_iff_exists'.mp hmethod
    obtain ⟨m, hm⟩ := h.method name hname
    exact ⟨⟨d.id, d.path.getD [], source, d.controller, .endpoint m action hne, h.id_ne⟩, rfl,
      hkind.symm, by rw [hname, Option.map_some, hm]; rfl, rfl, rfl, hline, rfl, haction.symm⟩

/-- A draft is sound just if there is a record that realizes it. -/
theorem exists_realizes_iff : (∃ r : Record CodePoint, r.Realizes d) ↔ d.IsSound :=
  ⟨fun ⟨_, h⟩ => isSound_of_realizes h, IsSound.exists_realizes⟩

/-- Where drafts are told, just those records are told that realize them one by one. -/
theorem areToldBy_iff {drafts : List Record.Draft} {records : List (Record CodePoint)} {value : Json}
    (h : AreToldBy drafts value) :
    RoutesAreToldBy records value ↔ List.Forall₂ Record.Realizes records drafts := by
  obtain ⟨items, rfl, hitems⟩ := h
  have hrecords :
      List.Forall₂ (fun r item => Field.IsObject (Record.IsToldBy r) item) records items ↔
        List.Forall₂ Record.Realizes records drafts :=
    forall₂_iff_of hitems fun _ _ _ hitem => hitem.iff_of fun _ => isToldBy_iff
  rw [← hrecords]
  constructor
  · intro htold
    obtain ⟨_, ⟨⟩, htold⟩ := htold
    exact htold
  · intro htold
    exact ⟨items, rfl, htold⟩

theorem exists_forall₂_realizes_iff {drafts : List Record.Draft} :
    (∃ records, List.Forall₂ Record.Realizes records drafts) ↔ ∀ d ∈ drafts, d.IsSound := by
  induction drafts with
  | nil => simp
  | cons d drafts ih =>
    rw [List.forall_mem_cons, ← exists_realizes_iff, ← ih]
    simp only [List.forall₂_cons_right_iff]
    constructor
    · intro h
      obtain ⟨_, r, records, hr, hrecords, rfl⟩ := h
      exact ⟨⟨r, hr⟩, records, hrecords⟩
    · intro h
      obtain ⟨⟨r, hr⟩, records, hrecords⟩ := h
      exact ⟨_, r, records, hr, hrecords, rfl⟩

theorem map_id_of_forall₂_realizes {records : List (Record CodePoint)} {drafts : List Record.Draft}
    (h : List.Forall₂ Record.Realizes records drafts) :
    records.map Record.id = drafts.map Record.Draft.id := by
  rw [← List.forall₂_eq_eq_eq, List.forall₂_map_left_iff, List.forall₂_map_right_iff]
  exact h.imp fun _ _ hr => hr.id

end Record.Draft

/-- The index says what the draft says. -/
structure Index.Realizes (i : Index CodePoint) (d : Index.Draft) : Prop where
  version : i.version = d.version
  generatedAt : i.generatedAt = d.generatedAt
  project : i.project = d.project
  routes : List.Forall₂ Record.Realizes i.routes d.routes

/-- A project is told by its fields, and by them alone. -/
theorem Project.isToldBy_iff {p q : Project CodePoint} {fields : List (CodeText × Json)}
    (h : q.IsToldBy fields) : p.IsToldBy fields ↔ p = q := by
  constructor
  · intro hp
    obtain ⟨root, language, framework⟩ := p
    obtain rfl := h.root.str_iff.mp hp.root
    obtain rfl := h.language.str_iff.mp hp.language
    obtain rfl := h.framework.str_iff.mp hp.framework
    rfl
  · intro heq
    exact heq ▸ h

namespace Index.Draft

variable {d : Index.Draft} {document : Json}

/-- A spelling of a draft spells just the indexes that realize it. -/
theorem isSpelledBy_iff {i : Index CodePoint} (h : d.IsSpelledBy document) :
    i.IsSpelledBy document ↔ i.Realizes d := by
  refine h.iff_of fun fields hfields => ?_
  have hproject : Field.Tells ["project"] fields (Field.IsObject i.project.IsToldBy) ↔
      i.project = d.project :=
    hfields.project.iff_of fun _ hvalue => hvalue.iff_of fun _ => Project.isToldBy_iff
  have hroutes : Field.Tells ["routes"] fields (RoutesAreToldBy i.routes) ∨
        Field.find ["routes"] fields = none ∧ i.routes = [] ↔
      List.Forall₂ Record.Realizes i.routes d.routes := by
    rcases hfields.routes with hthere | ⟨hnone, hnil⟩
    · simp only [hthere.find_ne_none, false_and, or_false]
      exact hthere.iff_of fun _ hvalue => Record.Draft.areToldBy_iff hvalue
    · -- Routes that are left out are none, in the index as in the draft.
      rw [hnil, List.forall₂_nil_right_iff]
      refine ⟨fun htold => ?_, fun hroutes => .inr ⟨hnone, hroutes⟩⟩
      rcases htold with htold | ⟨-, hroutes⟩
      · exact absurd hnone htold.find_ne_none
      · exact hroutes
  -- Each field of the index is the one that the draft has.
  constructor
  · intro htold
    exact ⟨hfields.version.integer_iff.mp htold.version,
      hfields.generatedAt.str_iff.mp htold.generatedAt, hproject.mp htold.project,
      hroutes.mp htold.routes⟩
  · intro hi
    exact ⟨hfields.version.integer_iff.mpr hi.version,
      hfields.generatedAt.str_iff.mpr hi.generatedAt, hproject.mpr hi.project,
      hroutes.mpr hi.routes⟩

/-- A draft is sound just if there is an index that realizes it. -/
theorem exists_realizes_iff : (∃ i : Index CodePoint, i.Realizes d) ↔ d.IsSound := by
  -- Records that realize the routes have their identifiers, so those are distinct in both or neither.
  constructor
  · intro h
    obtain ⟨i, hi⟩ := h
    refine ⟨Record.Draft.exists_forall₂_realizes_iff.mp ⟨i.routes, hi.routes⟩, ?_⟩
    rw [← Record.Draft.map_id_of_forall₂_realizes hi.routes]
    exact i.distinct
  · intro h
    obtain ⟨records, hrecords⟩ := Record.Draft.exists_forall₂_realizes_iff.mpr h.routes
    have hdistinct : (records.map Record.id).Nodup := by
      rw [Record.Draft.map_id_of_forall₂_realizes hrecords]
      exact h.distinct
    exact ⟨⟨d.version, d.generatedAt, d.project, records, hdistinct⟩, rfl, rfl, rfl, hrecords⟩

end Index.Draft

/-- **What is accepted.** Of the documents whose fields are there with values of their types, those
are read as indexes that say nothing but what an index may say: all identifiers there and different,
all lines from 1 on, a kind and methods that exist, and on each route what its kind asks for. -/
theorem index_isOk_iff_isSound {d : Index.Draft} {document : Json} (h : d.IsSpelledBy document) :
    (∃ i, Decode.index document = .ok i) ↔ d.IsSound := by
  simp only [Decode.index_eq_ok_iff, Index.Draft.isSpelledBy_iff h]
  exact Index.Draft.exists_realizes_iff

/-- What is said of a controller, with or without an action, and of an endpoint. -/
def mixedDraft (action : Option CodeText) : Index.Draft where
  version := 1
  generatedAt := CodeText.ofString "2024-01-15T12:00:00+00:00"
  project :=
    ⟨CodeText.ofString "/r", CodeText.ofString "python", CodeText.ofString "python"⟩
  routes :=
    [⟨"a".toList, "controller".toList, none, none, CodeText.ofString "m.py", 1,
       CodeText.ofString "m", action⟩,
     ⟨"b".toList, "endpoint".toList, some "pAtCh".toList, none, CodeText.ofString "m.py", 7,
       CodeText.ofString "m", some (CodeText.ofString "f")⟩]

/-- A document that says it, with nulls and with a field that no route has. -/
def mixedDocument (action : Option CodeText) : Json :=
  .fields
    [("version", .int 1), ("generatedAt", .string "2024-01-15T12:00:00+00:00"),
     ("project", .fields
       [("root", .string "/r"), ("language", .string "python"), ("framework", .string "python")]),
     ("routes", .arr
       [.fields
          [("id", .string "a"), ("type", .string "controller"),
           ("source", .fields [("file", .string "m.py"), ("line", .int 1)]),
           ("symbols", .fields
             [("controller", .string "m"), ("action", (action.map Json.str).getD .null)])],
        .fields
          [("id", .string "b"), ("type", .string "endpoint"), ("httpMethod", .string "pAtCh"),
           ("path", .null), ("more", .null),
           ("source", .fields [("file", .string "m.py"), ("line", .int 7)]),
           ("symbols", .fields [("controller", .string "m"), ("action", .string "f")])]])]

theorem mixedDraft_isSpelledBy (action : Option CodeText) :
    (mixedDraft action).IsSpelledBy (mixedDocument action) := by
  have haction : SymbolsAreToldBy (CodeText.ofString "m") action
      [(CodeText.ofString "controller", .string "m"),
       (CodeText.ofString "action", (action.map Json.str).getD .null)] := by
    refine ⟨⟨_, _, rfl, rfl⟩, ?_⟩
    cases action with
    | none => exact .inr ⟨_, _, rfl, rfl⟩
    | some action => exact ⟨_, _, rfl, rfl⟩
  have hroutes : Record.Draft.AreToldBy (mixedDraft action).routes
      (((mixedDocument action).get? "routes").getD .null) := by
    refine ⟨_, rfl, .cons ⟨_, rfl, ?_⟩ (.cons ⟨_, rfl, ?_⟩ .nil)⟩
    · exact ⟨⟨_, _, rfl, rfl⟩, ⟨_, _, rfl, rfl⟩, .inl rfl, .inl rfl,
        ⟨_, _, rfl, _, rfl, ⟨_, _, rfl, rfl⟩, ⟨_, _, rfl, rfl⟩⟩, ⟨_, _, rfl, _, rfl, haction⟩⟩
    · exact ⟨⟨_, _, rfl, rfl⟩, ⟨_, _, rfl, rfl⟩, ⟨_, _, rfl, rfl⟩, .inr ⟨_, _, rfl, rfl⟩,
        ⟨_, _, rfl, _, rfl, ⟨_, _, rfl, rfl⟩, ⟨_, _, rfl, rfl⟩⟩,
        ⟨_, _, rfl, _, rfl, ⟨_, _, rfl, rfl⟩, ⟨_, _, rfl, rfl⟩⟩⟩
  exact ⟨_, rfl, ⟨_, _, rfl, rfl⟩, ⟨_, _, rfl, rfl⟩,
    ⟨_, _, rfl, _, rfl, ⟨_, _, rfl, rfl⟩, ⟨_, _, rfl, rfl⟩, ⟨_, _, rfl, rfl⟩⟩,
    .inl ⟨_, _, rfl, hroutes⟩⟩

theorem mixedDraft_isSound_iff (action : Option CodeText) :
    (mixedDraft action).IsSound ↔ action = none := by
  constructor
  · intro h
    exact ((h.routes _ List.mem_cons_self).of_controller rfl).2
  · intro haction
    subst haction
    refine ⟨?_, by decide⟩
    rintro r (_ | ⟨_, _ | ⟨_, ⟨⟩⟩⟩)
    · exact ⟨by decide, by decide, .inl rfl, nofun, fun hkind => absurd hkind (by decide),
        fun _ => ⟨rfl, rfl⟩⟩
    · exact ⟨by decide, by decide, .inr rfl, fun name hname => ⟨.patch, by cases hname; rfl⟩,
        fun _ => ⟨by decide, _, rfl, by decide⟩, fun hkind => absurd hkind (by decide)⟩

/-- A null where a controller has no action is no action. An empty text is one. -/
theorem index_isOk_iff_isSound_mixed :
    (mixedDraft none).IsSpelledBy (mixedDocument none) ∧
      (∃ i, Decode.index (mixedDocument none) = .ok i) ∧
      (mixedDraft (some [])).IsSpelledBy (mixedDocument (some [])) ∧
      ¬ ∃ i, Decode.index (mixedDocument (some [])) = .ok i := by
  have hnone := mixedDraft_isSpelledBy none
  have hempty := mixedDraft_isSpelledBy (some [])
  refine ⟨hnone, ?_, hempty, ?_⟩
  · rw [index_isOk_iff_isSound hnone, mixedDraft_isSound_iff]
  · rw [index_isOk_iff_isSound hempty, mixedDraft_isSound_iff]
    nofun

end RouteAtlas
