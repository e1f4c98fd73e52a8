import RouteAtlas.Proofs.Document.RoundTrip
import RouteAtlas.Proofs.Store.Document
import RouteAtlas.Store.Index
import Mathlib.Data.List.Nodup

/-!
# The bytes of an index

An index that was written is read back from the bytes of its file, unless it is of another version
than the current one: `ofBytes_bytesOf_index` and `Store.ofDocument_index`. The document of an index
holds no floating-point numbers, no key twice in one object, and is only a few levels deep
(`isExact_index`).

Whether it can be written at all depends on what stands in the index. Halves of pairs cannot, and
the reader takes no number of more than a few thousand digits. An index of characters has no halves,
so that only its numbers are left to be looked at (`isEncodable_index`).
-/

namespace RouteAtlas

namespace Json

theorem areExactFields_rows (depth : Nat) (rows : List (String × Json)) :
    areExactFields depth (rows.map fun (key, value) => (CodeText.ofString key, value)) =
      rows.all fun row => isExact depth row.2 := by
  induction rows with
  | nil => rfl
  | cons row rows ih => rw [List.map_cons, areExactFields, ih, List.all_cons]

theorem areExact_eq_all (depth : Nat) (items : List Json) :
    areExact depth items = items.all (isExact depth) := by
  induction items with
  | nil => rfl
  | cons item items ih => rw [areExact, ih, List.all_cons]

/-- An object is exact if its keys differ and its values are. -/
theorem isExact_fields {depth : Nat} {rows : List (String × Json)}
    (hkeys : (rows.map Prod.fst).Nodup) (hvalues : ∀ row ∈ rows, isExact depth row.2 = true) :
    isExact (depth + 1) (.fields rows) = true := by
  have hinjective : Function.Injective CodeText.ofString := fun _ _ => CodeText.ofString_inj.mp
  have hnodup := List.Nodup.map hinjective hkeys
  rw [List.map_map] at hnodup
  simp only [fields, isExact, Nat.add_sub_cancel, areExactFields_rows, List.map_map,
    List.all_eq_true.mpr hvalues, Bool.and_true, Bool.and_eq_true, decide_eq_true_eq]
  exact ⟨Nat.succ_pos depth, hnodup⟩

theorem areEncodableFields_rows (rows : List (String × Json)) :
    areEncodableFields (rows.map fun (key, value) => (CodeText.ofString key, value)) =
      rows.all fun row => isEncodable row.2 := by
  induction rows with
  | nil => rfl
  | cons row rows ih =>
    rw [List.map_cons, areEncodableFields, ih, List.all_cons, CodeText.isSome_toText?_ofString,
      Bool.true_and]

theorem areEncodable_eq_all (items : List Json) :
    areEncodable items = items.all isEncodable := by
  induction items with
  | nil => rfl
  | cons item items ih => rw [areEncodable, ih, List.all_cons]

/-- The keys of an object are texts, so that its values decide. -/
@[simp] theorem isEncodable_fields (rows : List (String × Json)) :
    isEncodable (.fields rows) = rows.all fun row => isEncodable row.2 :=
  areEncodableFields_rows rows

@[simp] theorem isEncodable_text (s : Text) : isEncodable (.text s) = true :=
  CodeText.isSome_toText?_ofText s

@[simp] theorem isEncodable_ofText (s : Text) : isEncodable (.str (CodeText.ofText s)) = true :=
  CodeText.isSome_toText?_ofText s

end Json

namespace Encode

open Json

theorem isExact_str (depth : Nat) (s : CodeText) : isExact depth (.str s) = true := rfl

theorem isExact_record (depth : Nat) (r : Record CodePoint) :
    isExact (depth + 2) (record r) = true := by
  obtain ⟨id, path, source, controller, role, hid⟩ := r
  have hsource : isExact (depth + 1)
      (.fields [("file", .str source.file), ("line", .int source.line)]) = true :=
    isExact_fields (by simp) (by simp [isExact])
  cases role with
  | controller =>
    have hsymbols : isExact (depth + 1) (.fields [("controller", .str controller)]) = true :=
      isExact_fields (by simp) (by simp [isExact_str])
    exact isExact_fields (by simp [Record.method?, present])
      (by simp [Record.method?, Record.action?, present, isExact_str, Json.text, hsource, hsymbols])
  | endpoint method action haction =>
    have hsymbols : isExact (depth + 1)
        (.fields [("controller", .str controller), ("action", .str action)]) = true :=
      isExact_fields (by simp) (by simp [isExact_str])
    exact isExact_fields (by simp [Record.method?, present])
      (by simp [Record.method?, Record.action?, present, isExact_str, Json.text, hsource, hsymbols])

theorem isExact_project (depth : Nat) (p : Project CodePoint) :
    isExact (depth + 1) (project p) = true :=
  isExact_fields (by simp) (by simp [isExact_str])

theorem isExact_index (depth : Nat) (i : Index CodePoint) :
    isExact (depth + 4) (index i) = true := by
  have hroutes : isExact (depth + 3) (.arr (i.routes.map record)) = true := by
    simp [isExact, areExact_eq_all, isExact_record]
  refine isExact_fields (by simp) ?_
  simp only [List.forall_mem_cons]
  exact ⟨rfl, rfl, isExact_project _ _, hroutes, by simp⟩

/-- Of a record of characters, only the line may be too long to be read back. -/
theorem isEncodable_record (r : Record) :
    isEncodable (record r.coded) = isEncodable (.int r.source.line) := by
  obtain ⟨id, path, source, controller, role, hid⟩ := r
  cases role <;>
    simp [record, Record.coded, Role.coded, Source.coded, Record.kind, Record.method?,
      Record.action?, present]

/-- Of an index of characters, only the numbers may be too long to be read back. -/
theorem isEncodable_index (i : Index) :
    isEncodable (index i) =
      (isEncodable (.int i.version) && i.routes.all fun r => isEncodable (.int r.source.line)) := by
  have hproject : isEncodable (project i.project.coded) = true := by
    simp [project, Project.coded]
  have hroutes : isEncodable (.arr ((i.routes.map Record.coded).map record)) =
      i.routes.all fun r => isEncodable (.int r.source.line) := by
    rw [isEncodable, areEncodable_eq_all, List.map_map, List.all_map]
    simp only [Function.comp_def, isEncodable_record]
  rw [index, isEncodable_fields, ← hroutes]
  simp [Index.coded, hproject]

end Encode

namespace Store

/-- The bytes of an index spell its document. -/
theorem ofBytes_bytesOf_index {i : Index CodePoint} {bytes : Bytes}
    (h : DocumentFile.bytesOf layout (Encode.index i) = .ok bytes) (path : Path) :
    DocumentFile.ofBytes path bytes = .ok (Encode.index i) :=
  DocumentFile.ofBytes_bytesOf (Json.Layout.isReadable_indented (some 2))
    (Encode.isExact_index 956 i) h path

/-- An index has bytes if its texts are encodable, for its document is not deep. -/
theorem exists_bytesOf_index {i : Index CodePoint} (h : Json.isEncodable (Encode.index i) = true) :
    ∃ bytes, DocumentFile.bytesOf layout (Encode.index i) = .ok bytes := by
  have hshallow := Json.isShallow_of_isExact (Encode.isExact_index 956 i)
  obtain ⟨bytes, hbytes, -⟩ := DocumentFile.bytesOf_eq_ok layout h hshallow
  exact ⟨bytes, hbytes⟩

/-- The document of an index spells that index, if it is of the current version. -/
theorem ofDocument_index (path : Path) (i : Index CodePoint) :
    ofDocument path (Encode.index i) =
      if i.version = schemaVersion then .ok i else .error (.wrongVersion (.int i.version)) := by
  have hversion : ((Encode.index i).get? "version").getD .null = .int i.version := rfl
  have hdecode := Decode.index_index i
  obtain ⟨fields, hfields⟩ : ∃ fields, Encode.index i = .obj fields := ⟨_, rfl⟩
  rw [hfields] at hversion hdecode ⊢
  simp only [ofDocument, hversion, hdecode, isCurrentVersion, beq_iff_eq]
  rfl

end Store

end RouteAtlas
