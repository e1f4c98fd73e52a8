import RouteAtlas.Proofs.Document.Canonical
import RouteAtlas.Proofs.Json.Limits
import RouteAtlas.Proofs.Store.Saves

/-!
# Loading any file

Whatever the bytes of the file of an index, one of three things comes of loading it: an index of the
current version, or a fault that says what is wrong with the file, or the reader gives up on it
(`load_of_any_file`). The last one is no fault of the file, as faults go, and it does not come about
unless the file has too many digits in a row or too many opening brackets.

The three are told apart along the way that loading takes. What stands at the path of the index
decides whether there is a file at all. The bytes of a file are a document or not
(`DocumentFile.ofBytes_eq_error`). A document spells an index of the current version
(`version_of_ofDocument`) or is at fault (`isCorrupt_of_ofDocument`). Only the reader of documents
gives up, and what it gives up on is known from its limits (`Json.isBeyondLimits_of_read`).
-/

namespace RouteAtlas

/-! ## Documents -/

/-- A number that is the current version is read as that. -/
theorem Field.integer_eq_schemaVersion {value : Json} {n : Int}
    (hcurrent : Store.isCurrentVersion value = true) (h : Field.integer value = .ok n) :
    n = schemaVersion := by
  unfold Store.isCurrentVersion at hcurrent
  split at hcurrent
  next m =>
    rw [Field.integer] at h
    cases h
    exact beq_iff_eq.mp hcurrent
  next x =>
    have hvalue : x.toInt? = some schemaVersion := beq_iff_eq.mp hcurrent
    rw [Field.integer, Field.integerOfFloat.eq_def, hvalue] at h
    split at h
    · dsimp only at h
      split at h
      · cases h
        rfl
      · cases h
    · cases h
  next => cases hcurrent

/-- The version of an index that is read is what its document says. -/
theorem Decode.version_of_index {fields : List (CodeText × Json)} {i : Index CodePoint}
    (h : Decode.index (.obj fields) = .ok i) :
    Field.integer (((Json.obj fields).get? "version").getD .null) = .ok i.version := by
  obtain ⟨_, ⟨⟩, htold⟩ := Decode.index_eq_ok_iff.mp h
  exact htold.version.get?

namespace Store

variable {store : Store} {t : FileTree} {i : Index CodePoint}

/-- An index that a document spells is of the current version. -/
theorem version_of_ofDocument {path : Path} {document : Json}
    (h : ofDocument path document = .ok i) : i.version = schemaVersion := by
  unfold ofDocument at h
  split at h
  next fields =>
    dsimp only at h
    split at h
    next hcurrent =>
      exact Field.integer_eq_schemaVersion hcurrent
        (Decode.version_of_index (Except.mapError_eq_ok.mp h))
    next => cases h
  next => cases h

/-- A document that spells no index is at fault. -/
theorem isCorrupt_of_ofDocument {path : Path} {document : Json} {fault : LoadFault}
    (h : ofDocument path document = .error fault) : fault.isCorrupt = true := by
  unfold ofDocument at h
  split at h
  next fields =>
    dsimp only at h
    split at h
    next =>
      cases hindex : Decode.index (.obj fields) with
      | ok index =>
        rw [hindex] at h
        cases h
      | error faults =>
        rw [hindex] at h
        cases h
        rfl
    next =>
      cases h
      rfl
  next =>
    cases h
    rfl

end Store

/-! ## Files -/

/-- Bytes that spell no document are at fault, or their text is one that the reader may give up
on. -/
theorem DocumentFile.ofBytes_eq_error {path : Path} {bytes : Bytes} {fault : ReadFault}
    (h : ofBytes path bytes = .error fault) :
    fault.isOfFile = true ∨
      ∃ text limit, fault = .beyondLimits (Text.unifyNewlines text) limit ∧
        Utf8.decode bytes = .ok text ∧ Json.IsBeyondLimits (Text.unifyNewlines text) := by
  unfold ofBytes at h
  cases hdecode : Utf8.decode bytes with
  | error decodeFault =>
    rw [hdecode] at h
    cases h
    exact .inl rfl
  | ok text =>
    rw [hdecode] at h
    cases hread : Json.read (Text.unifyNewlines text) with
    | ok document =>
      dsimp only [Except.mapError, bind, Except.bind] at h
      rw [hread] at h
      cases h
    | error readFault =>
      dsimp only [Except.mapError, bind, Except.bind] at h
      rw [hread] at h
      have hlimits := Json.isBeyondLimits_of_read hread
      cases readFault with
      | byteOrderMark =>
        cases h
        exact .inl rfl
      | misplaced what at_ =>
        cases h
        exact .inl rfl
      -- The two limits of the reader are the faults that are none of the file.
      | tooDeep inObject =>
        cases h
        exact .inr ⟨text, _, rfl, rfl, hlimits (.inl ⟨inObject, rfl⟩)⟩
      | tooManyDigits count =>
        cases h
        exact .inr ⟨text, _, rfl, rfl, hlimits (.inr ⟨count, rfl⟩)⟩

namespace Store

variable {store : Store} {t : FileTree} {i : Index CodePoint} {place : Place} {bytes : Bytes}
  {mode : Nat}

/-- **Whatever the bytes of the file, loading it comes to something definite.** It gives an index of
the current version, or a fault that says that the index is corrupt. There is one exception: the
reader gives up on the text of the file, and then the text has more digits in a row than an integer
may have, or more opening brackets than lists and objects may lie inside one another. -/
theorem load_of_any_file (store : Store) (t : FileTree)
    (hfile : t.status store.path = .ok (place, .file bytes mode)) :
    (∃ i, store.load t = .ok i ∧ i.version = schemaVersion) ∨
    (∃ fault, store.load t = .error fault ∧ fault.isCorrupt = true) ∨
    ∃ text limit,
      store.load t = .error (.document (.beyondLimits (Text.unifyNewlines text) limit)) ∧
        Utf8.decode bytes = .ok text ∧ Json.IsBeyondLimits (Text.unifyNewlines text) := by
  rw [load_eq_of_file hfile]
  cases hbytes : DocumentFile.ofBytes store.path bytes with
  | error fault =>
    rcases DocumentFile.ofBytes_eq_error hbytes with hcorrupt | ⟨text, limit, rfl, hdecode, hlimits⟩
    · exact .inr (.inl ⟨_, rfl, hcorrupt⟩)
    · exact .inr (.inr ⟨text, limit, rfl, hdecode, hlimits⟩)
  | ok document =>
    show (∃ i, ofDocument store.path document = .ok i ∧ i.version = schemaVersion) ∨
      (∃ fault, ofDocument store.path document = .error fault ∧ fault.isCorrupt = true) ∨ _
    cases hdocument : ofDocument store.path document with
    | ok i => exact .inl ⟨i, rfl, version_of_ofDocument hdocument⟩
    | error fault => exact .inr (.inl ⟨fault, rfl, isCorrupt_of_ofDocument hdocument⟩)

/-- An object without fields is a file that is at fault: it has no version. -/
def versionlessTree : FileTree where
  entries := [([".apimap".toList], .directory),
    ([".apimap".toList, "index.json".toList], .file (Utf8.encode ['{', '}']) 0o644)]
  distinct := by decide

theorem load_of_any_file_versionless :
    versionlessTree.status rootStore.path =
        .ok ([".apimap".toList, "index.json".toList], .file (Utf8.encode ['{', '}']) 0o644) ∧
      ∃ fault, rootStore.load versionlessTree = .error fault ∧ fault.isCorrupt = true := by
  have hfile : versionlessTree.status rootStore.path =
      .ok ([".apimap".toList, "index.json".toList], .file (Utf8.encode ['{', '}']) 0o644) := by
    rw [rootStore_path]
    cbv
  have hload : rootStore.load versionlessTree = .error (.wrongVersion .null) := by
    rw [load_eq_of_file hfile, rootStore_path]
    cbv
  refine ⟨hfile, ?_⟩
  rcases load_of_any_file rootStore versionlessTree hfile with
    ⟨i, hindex, -⟩ | hcorrupt | ⟨text, limit, hlimit, -⟩
  · rw [hload] at hindex
    cases hindex
  · exact hcorrupt
  · rw [hload] at hlimit
    cases hlimit

end Store

/-! ## What the reader gives up on -/

/-- More ones than an integer may have digits are no document. -/
theorem Json.read_ones {n : Nat} (h : digitLimit < n + 1) :
    read (List.replicate (n + 1) '1') = .error (.tooManyDigits (n + 1)) := by
  -- All of the text is the whole part of one number.
  have hwhole : wholePart ('1' :: List.replicate n '1') = '1' :: List.replicate n '1' := by
    have hdigits : ∀ c ∈ '1' :: List.replicate n '1', Text.isAsciiDigit c = true := by
      intro c hc
      rw [← List.replicate_succ] at hc
      rw [List.eq_of_mem_replicate hc]
      rfl
    have hall : ('1' :: List.replicate n '1' ++ []).takeWhile Text.isAsciiDigit =
        '1' :: List.replicate n '1' := Text.takeWhile_append_eq_left hdigits (by simp)
    rwa [List.append_nil] at hall
  have hnumber : readNumber ⟨'1' :: List.replicate n '1', 0⟩ = .error (.tooManyDigits (n + 1)) := by
    have hminus : hasMinus ('1' :: List.replicate n '1') = false := rfl
    have hfilled : ('1' :: List.replicate n '1').isEmpty = false := rfl
    have hlength : ('1' :: List.replicate n '1').length = n + 1 := by simp
    simp only [readNumber, hminus, Bool.false_eq_true, if_false, hwhole, hfilled, List.drop_length]
    show (if digitLimit < ('1' :: List.replicate n '1').length then _ else _) = _
    rw [if_pos (by rw [hlength]; exact h), hlength]
  have hscalar : readScalar ⟨'1' :: List.replicate n '1', 0⟩ = .error (.tooManyDigits (n + 1)) := by
    have hword : (wordValues.find? fun entry =>
        entry.1.toList.isPrefixOf ('1' :: List.replicate n '1')) = none := by
      simp [wordValues]
    rw [readScalar, hword]
    exact hnumber
  have hblanks : (Cursor.mk ('1' :: List.replicate n '1') 0).skipBlanks =
      ⟨'1' :: List.replicate n '1', 0⟩ := rfl
  rw [List.replicate_succ]
  show (readValue nestingLimit (Cursor.mk ('1' :: List.replicate n '1') 0).skipBlanks >>= _) = _
  rw [hblanks, readValue_scalar (by decide) (by decide) (by decide), hscalar]
  rfl

namespace Store

/-- A file with one digit too many. -/
def longNumeralTree : FileTree where
  entries := [([".apimap".toList], .directory),
    ([".apimap".toList, "index.json".toList],
      .file (Utf8.encode (List.replicate (Json.digitLimit + 1) '1')) 0o644)]
  distinct := by decide

/-- Loading that file comes to a fault that does not say that the index is corrupt. -/
theorem load_of_long_numeral :
    ∃ fault, rootStore.load longNumeralTree = .error fault ∧ fault.isCorrupt = false := by
  have hfile : longNumeralTree.status rootStore.path =
      .ok ([".apimap".toList, "index.json".toList],
        .file (Utf8.encode (List.replicate (Json.digitLimit + 1) '1')) 0o644) := by
    rw [rootStore_path]
    unfold longNumeralTree
    -- The way to the file does not depend on its bytes, and there are many of them.
    generalize Utf8.encode (List.replicate (Json.digitLimit + 1) '1') = bytes
    cbv
  have hunify : Text.unifyNewlines (List.replicate (Json.digitLimit + 1) '1') =
      List.replicate (Json.digitLimit + 1) '1' := by
    refine Text.unifyNewlines_eq_self fun hreturn => ?_
    exact absurd (List.eq_of_mem_replicate hreturn) (by decide)
  have hread := Json.read_ones (Nat.lt_succ_self Json.digitLimit)
  have hbytes : DocumentFile.ofBytes rootStore.path
      (Utf8.encode (List.replicate (Json.digitLimit + 1) '1')) =
        .error (.beyondLimits (List.replicate (Json.digitLimit + 1) '1')
          (.tooManyDigits (Json.digitLimit + 1))) := by
    rw [DocumentFile.ofBytes, Utf8.decode_encode]
    simp only [Except.mapError, bind, Except.bind, hunify, hread]
  rw [load_eq_of_file hfile, hbytes]
  exact ⟨_, rfl, rfl⟩

end Store

end RouteAtlas
