import RouteAtlas.Document.Index

/-!
# Indexes read back

Decoding undoes encoding: `Decode.index_index`. An index is put together again part by part, each
from the field that holds it; which field that is depends on the keys alone (`find_rows`). What a
controller lacks has no field at all, and is lacking again afterwards.

The keys that are written are those in camel case, and each check looks for these first, so the
other spelling of a key is never looked for. Strings come back as they are, halves of pairs
included. That an index holds no identifier twice is part of what it is, and so is it that a route
has an identifier and a line: of these, the checks find what was known before.
-/

namespace RouteAtlas

/-! ## Values -/

/-- Keys are equal in code points if they are in characters. -/
theorem CodeText.ofString_inj {a b : String} :
    CodeText.ofString a = CodeText.ofString b ↔ a = b := by
  refine ⟨fun h => ?_, fun h => by rw [h]⟩
  have htext := congrArg CodeText.toText? h
  rw [ofString, ofString, toText?_ofText, toText?_ofText, Option.some.injEq] at htext
  exact String.toList_inj.mp htext

/-- A text is checked and found to be that text. -/
theorem Field.text_text (t : Text) : Field.text (.text t) = .ok t := by
  rw [Json.text, Field.text, CodeText.toText?_ofText]

theorem Field.codeText_str (s : CodeText) : Field.codeText (.str s) = .ok s := rfl

theorem Field.nonEmptyText_text {t : Text} (h : t ≠ []) :
    Field.nonEmptyText (.text t) = .ok ⟨t, h⟩ := by
  rw [Field.nonEmptyText, Field.text_text]
  exact dif_pos h

theorem Field.integerFrom_int {least n : Int} (h : least ≤ n) :
    Field.integerFrom least (.int n) = .ok ⟨n, h⟩ := dif_pos h

theorem Decode.kind_text (k : Kind) : Decode.kind (.text k.tag) = .ok k := by
  cases k <;> rfl

theorem Decode.method_text (m : Method) : Decode.method (.text m.name) = .ok (some m) := by
  cases m <;> rfl

/-! ## Rows -/

/-- The fields of an object are found by their keys. -/
theorem find_rows (keys : List String) (rows : List (String × Json)) :
    Field.find keys (rows.map fun (key, value) => (CodeText.ofString key, value)) =
      keys.findSome? fun key => (rows.lookup key).map fun value => (key, value) := by
  have hlookup (key : String) :
      Json.lookupField (CodeText.ofString key)
        (rows.map fun (key, value) => (CodeText.ofString key, value)) = rows.lookup key := by
    induction rows with
    | nil => rfl
    | cons row rows ih =>
      obtain ⟨k, value⟩ := row
      rw [List.map_cons, Json.lookupField, ih, List.lookup_cons]
      by_cases h : key = k
      · simp [h]
      · have : (key == k) = false := by simpa using h
        rw [this, if_neg fun heq => h (CodeText.ofString_inj.mp heq).symm]
  simp only [Field.find, hlookup]

section Rows

variable {α : Type} {keys : List String} {rows : List (String × Json)} {key : String}
  {value : Json} {check : Json → Checked α} {a : α}

/-- A field that is there gives what its check gives. -/
theorem required_rows
    (hfind : (keys.findSome? fun key => (rows.lookup key).map fun value => (key, value)) =
      some (key, value))
    (hcheck : check value = .ok a) :
    Field.required keys check (rows.map fun (key, value) => (CodeText.ofString key, value)) =
      .ok a := by
  rw [Field.required, find_rows, hfind]
  simp only [hcheck]
  rfl

/-- A field that is there is checked, though it may be left out. -/
theorem optional_rows {default : α}
    (hfind : (keys.findSome? fun key => (rows.lookup key).map fun value => (key, value)) =
      some (key, value))
    (hcheck : check value = .ok a) :
    Field.optional keys default check
      (rows.map fun (key, value) => (CodeText.ofString key, value)) = .ok a := by
  rw [Field.optional, find_rows, hfind]
  simp only [hcheck]
  rfl

/-- A field that is not there is passed over. -/
theorem optional_rows_of_none {default : α}
    (hfind : (keys.findSome? fun key => (rows.lookup key).map fun value => (key, value)) = none) :
    Field.optional keys default check
      (rows.map fun (key, value) => (CodeText.ofString key, value)) = .ok default := by
  rw [Field.optional, find_rows, hfind]

end Rows

/-! ## Projects and records -/

/-- What was indexed is read back. -/
theorem Decode.project_project (p : Project CodePoint) :
    Decode.project (Encode.project p) = .ok p := by
  simp only [Decode.project, Encode.project, Json.fields, Field.object, bind, Except.bind]
  rw [required_rows rfl (Field.codeText_str _), required_rows rfl (Field.codeText_str _),
    required_rows rfl (Field.codeText_str _)]
  rfl

/-- A record is read back. -/
theorem Decode.record_record (r : Record CodePoint) :
    Decode.record (Encode.record r) = .ok r := by
  obtain ⟨id, path, ⟨file, line, hline⟩, controller, role, hid⟩ := r
  -- The place of a route is an object of its own, with its bound on the line.
  have hsource : Decode.source (.fields [("file", .str file), ("line", .int line)]) =
      .ok ⟨file, line, hline⟩ := by
    have hline' : (1 : Int) ≤ line := by omega
    simp only [Decode.source, Json.fields, Field.object, bind, Except.bind]
    rw [required_rows rfl (Field.codeText_str _), required_rows rfl (Field.integerFrom_int hline')]
    rfl
  have hpath : Decode.path (.str path) = .ok path := Field.codeText_str path
  cases role with
  | controller =>
    have hsymbols : Decode.symbols (.fields [("controller", .str controller)]) =
        .ok (controller, none) := by
      simp only [Decode.symbols, Json.fields, Field.object, bind, Except.bind]
      rw [required_rows rfl (Field.codeText_str _), optional_rows_of_none rfl]
      rfl
    simp only [Decode.record, Encode.record, Json.fields, Field.object, bind, Except.bind,
      Record.method?, Record.action?, Record.kind, Option.map_none, Encode.present]
    rw [required_rows rfl (Field.nonEmptyText_text hid), required_rows rfl (Decode.kind_text _),
      optional_rows_of_none rfl, optional_rows rfl hpath, required_rows rfl hsource,
      required_rows rfl hsymbols]
    rfl
  | endpoint method action haction =>
    have hsymbols :
        Decode.symbols (.fields [("controller", .str controller), ("action", .str action)]) =
          .ok (controller, some action) := by
      have hoptional : Field.optionalCodeText (.str action) = .ok (some action) :=
        congrArg (Except.map some) (Field.codeText_str action)
      simp only [Decode.symbols, Json.fields, Field.object, bind, Except.bind]
      rw [required_rows rfl (Field.codeText_str _), optional_rows rfl hoptional]
      rfl
    simp only [Decode.record, Encode.record, Json.fields, Field.object, bind, Except.bind,
      Record.method?, Record.action?, Record.kind, Option.map_some, Encode.present]
    rw [required_rows rfl (Field.nonEmptyText_text hid), required_rows rfl (Decode.kind_text _),
      optional_rows rfl (Decode.method_text _), optional_rows rfl hpath, required_rows rfl hsource,
      required_rows rfl hsymbols]
    simp [Checked.both, Role.ofParts?, haction]

/-- The records of a list are read back. -/
theorem Checked.items_record (place : Nat) (records : List (Record CodePoint)) :
    Checked.items Decode.record place (records.map Encode.record) = .ok records := by
  induction records generalizing place with
  | nil => rfl
  | cons r records ih =>
    rw [List.map_cons, Checked.items, Decode.record_record, ih]
    rfl

/-! ## Indexes -/

/-- Texts that are distinct are not repeated. -/
theorem firstRepeated_of_nodup {seen texts : List Text} (hnodup : texts.Nodup)
    (hseen : ∀ s ∈ texts, s ∉ seen) : firstRepeated seen texts = none := by
  induction texts generalizing seen with
  | nil => rfl
  | cons s texts ih =>
    rw [List.nodup_cons] at hnodup
    rw [firstRepeated, if_neg (hseen s List.mem_cons_self)]
    refine ih hnodup.2 fun t ht => ?_
    rw [List.mem_cons, not_or]
    exact ⟨fun heq => hnodup.1 (heq ▸ ht), hseen t (List.mem_cons_of_mem _ ht)⟩

/-- The parts fit together exactly if they are the parts of a route. -/
theorem Role.ofParts?_eq_ok_iff {α : Type} {kind : Kind} {method : Option Method}
    {action : Option (List α)} {r : Record α} : ofParts? kind method action = .ok r.role ↔
      kind = r.kind ∧ method = r.method? ∧ action = r.action? := by
  obtain ⟨id, path, source, controller, role, hid⟩ := r
  constructor
  · intro h
    -- Which parts have to be there depends on the kind.
    cases kind with
    | controller =>
      cases method with
      | none =>
        cases action <;> cases h
        exact ⟨rfl, rfl, rfl⟩
      | some method => cases h
    | endpoint =>
      cases method with
      | none => cases h
      | some method =>
        rw [ofParts?] at h
        split at h
        next hname =>
          cases h
          cases action with
          | none => exact absurd rfl hname
          | some action => exact ⟨rfl, rfl, rfl⟩
        next => cases h
  · intro h
    obtain ⟨rfl, rfl, rfl⟩ := h
    cases role with
    | controller => rfl
    | endpoint method action haction => exact dif_pos haction

/-- An index that is put together consists of its parts. -/
theorem Index.parts_of_ofParts? {α : Type} {version : Int} {generatedAt : List α}
    {project : Project α} {routes : List (Record α)} {i : Index α}
    (h : ofParts? version generatedAt project routes = .ok i) :
    i.version = version ∧ i.generatedAt = generatedAt ∧ i.project = project ∧ i.routes = routes := by
  unfold ofParts? at h
  split at h
  · cases h
  · cases h
    exact ⟨rfl, rfl, rfl, rfl⟩

/-- The parts of an index make that index again. -/
theorem Index.ofParts?_self {α : Type} (i : Index α) :
    Index.ofParts? i.version i.generatedAt i.project i.routes = .ok i := by
  unfold Index.ofParts?
  split
  next id hid =>
    rw [firstRepeated_of_nodup i.distinct (by simp)] at hid
    exact absurd hid (by simp)
  next => rfl

/-- **Decoding undoes encoding.** -/
theorem Decode.index_index (i : Index CodePoint) : Decode.index (Encode.index i) = .ok i := by
  have hroutes : Decode.routes (.arr (i.routes.map Encode.record)) = .ok i.routes := by
    simp only [Decode.routes, Field.list, bind, Except.bind]
    exact Checked.items_record 0 i.routes
  have hversion : Field.integer (.int i.version) = .ok i.version := rfl
  simp only [Decode.index, Encode.index, Json.fields, Field.object, bind, Except.bind]
  rw [required_rows rfl hversion, required_rows rfl (Field.codeText_str _),
    required_rows rfl (Decode.project_project _), optional_rows rfl hroutes]
  simp only [Checked.both, Index.ofParts?_self]

end RouteAtlas
