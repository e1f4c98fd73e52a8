import RouteAtlas.Proofs.Except
import RouteAtlas.Proofs.Json.RoundTrip
import RouteAtlas.Proofs.Text.CodeText
import RouteAtlas.Proofs.Text.Utf8
import RouteAtlas.Store.Document

/-!
# The bytes of a document

A document that can be written at all is read back from its bytes: `ofBytes_bytesOf`. Whether it can
be written depends on its values alone (`bytesOf_eq_ok`, `isEncodable_of_bytesOf`): the strings have
to be texts, the integers must not be too long, and the lists and objects must not lie too deep
inside one another, which is decided piece by piece while the document is written
(`all_isEncodable_pieces`, `all_isShallow_pieces`). Only of a document that is too deep the fault is
none of its file (`bytesOf_eq_error`).

A document is written in pieces, and it is the first piece that cannot be written that decides what
goes wrong. Nothing of this needs the order of the pieces. That all pieces can be written is the
same as that all values can, so only one of two faults can come up where one of two things is wrong
with the document, and the text of the message is left to the piece.
-/

namespace RouteAtlas

/-- A text without carriage returns has its line ends unified already. -/
theorem Text.unifyNewlines_eq_self {s : Text} (h : '\r' ∉ s) : unifyNewlines s = s := by
  induction s using unifyNewlines.induct with
  | case1 => rfl
  | case2 rest ih => exact absurd List.mem_cons_self h
  | case3 rest _ ih => exact absurd List.mem_cons_self h
  | case4 c rest _ _ ih =>
    rw [List.mem_cons, not_or] at h
    rw [unifyNewlines, ih h.2]
    all_goals assumption

namespace Json

/-- The characters of a piece can be written. -/
def Piece.isEncodable : Piece → Bool
  | .text s => s.toText?.isSome
  | .integer _ n => decide ((Text.ofNat n.natAbs).length ≤ digitLimit)
  | .nested _ => true

/-- A piece does not lie too deep to be written. -/
def Piece.isShallow : Piece → Bool
  | .nested level => decide (level ≤ nestingLimit)
  | _ => true

/-! ## Depth -/

mutual

/-- At most `depth` lists and objects lie inside one another. -/
def isShallow (depth : Nat) : Json → Bool
  | .arr items => decide (0 < depth) && areShallow (depth - 1) items
  | .obj fields => decide (0 < depth) && areShallowFields (depth - 1) fields
  | _ => true

/-- All items are shallow. -/
def areShallow (depth : Nat) : List Json → Bool
  | [] => true
  | item :: items => isShallow depth item && areShallow depth items

/-- The values of all fields are shallow. -/
def areShallowFields (depth : Nat) : List (CodeText × Json) → Bool
  | [] => true
  | (_, value) :: fields => isShallow depth value && areShallowFields depth fields

end

mutual

/-- What is exact is shallow. -/
theorem isShallow_of_isExact {depth : Nat} {value : Json} (h : isExact depth value = true) :
    isShallow depth value = true := by
  cases value with
  | arr items =>
    rw [isExact, Bool.and_eq_true] at h
    rw [isShallow, h.1, areShallow_of_areExact h.2, Bool.and_self]
  | obj fields =>
    rw [isExact, Bool.and_eq_true, Bool.and_eq_true] at h
    rw [isShallow, h.1.1, areShallowFields_of_areExactFields h.2, Bool.and_self]
  | _ => rfl

theorem areShallow_of_areExact {depth : Nat} {items : List Json}
    (h : areExact depth items = true) : areShallow depth items = true := by
  cases items with
  | nil => rfl
  | cons item items =>
    rw [areExact, Bool.and_eq_true] at h
    rw [areShallow, isShallow_of_isExact h.1, areShallow_of_areExact h.2, Bool.and_self]

theorem areShallowFields_of_areExactFields {depth : Nat} {fields : List (CodeText × Json)}
    (h : areExactFields depth fields = true) : areShallowFields depth fields = true := by
  cases fields with
  | nil => rfl
  | cons field fields =>
    obtain ⟨key, value⟩ := field
    rw [areExactFields, Bool.and_eq_true] at h
    rw [areShallowFields, isShallow_of_isExact h.1, areShallowFields_of_areExactFields h.2,
      Bool.and_self]

end

/-- Indented as far as one likes, or not at all, a document can be read over. -/
theorem Layout.isReadable_indented (indent : Option Nat) : ({ indent } : Layout).IsReadable where
  afterComma := by simp [Gap]
  afterKey := ⟨[' '], rfl, by simp [Gap]⟩

/-! ## Pieces that can be written -/

/-- Quoting keeps what can be encoded. -/
theorem isSome_toText?_quote (s : CodeText) : (quote s).toText?.isSome = s.toText?.isSome := by
  have hpoint (point : CodePoint) :
      ((quotePoint point).all fun point => point.char?.isSome) = point.char?.isSome := by
    unfold quotePoint
    split
    case h_8 =>
      split
      next hcode =>
        cases point with
        | char c => exact CodeText.all_char?_ofText _
        | lone half => exact absurd hcode (by rw [CodePoint.code]; omega)
      next => rw [List.all_cons, List.all_nil, Bool.and_true]
    all_goals rfl
  rw [CodeText.isSome_toText?, CodeText.isSome_toText?, quote, List.cons_append, List.all_cons,
    List.all_append, List.all_flatMap]
  simp only [hpoint]
  simp [CodePoint.char?]

@[simp] theorem Piece.isEncodable_text (s : CodeText) :
    (Piece.text s).isEncodable = s.toText?.isSome := rfl

@[simp] theorem Piece.isEncodable_nested (level : Nat) :
    (Piece.nested level).isEncodable = true := rfl

@[simp] theorem Piece.isShallow_text (s : CodeText) : (Piece.text s).isShallow = true := rfl

/-- The numeral of a floating-point number is a text, whatever the number. -/
theorem isEncodable_scalarPiece_float (lead : Text) (x : Binary64) :
    (scalarPiece lead (.float x)).isEncodable = true := by
  cases x <;> simp [scalarPiece]

mutual

/-- The pieces of a value can be written exactly if the value is encodable, as far as their
characters go. -/
theorem all_isEncodable_pieces (layout : Layout) (level : Nat) (lead : Text) :
    ∀ value, (pieces layout level lead value).all Piece.isEncodable = isEncodable value
  | .null => by simp [pieces, scalarPiece, isEncodable]
  | .bool b => by simp [pieces, scalarPiece, isEncodable]
  | .int n => by simp [pieces, scalarPiece, Piece.isEncodable, isEncodable]
  | .float x => by simp [pieces, isEncodable_scalarPiece_float, isEncodable]
  | .str s => by simp [pieces, scalarPiece, isSome_toText?_quote, isEncodable]
  | .arr [] => by simp [pieces, scalarPiece, isEncodable, areEncodable]
  | .arr (item :: items) => by
    have hitem := all_isEncodable_pieces layout (level + 1) ('[' :: layout.newline level) item
    have hitems := all_isEncodable_itemPieces layout level items
    simp [pieces, hitem, hitems, isEncodable, areEncodable]
  | .obj [] => by simp [pieces, scalarPiece, isEncodable, areEncodableFields]
  | .obj ((key, value) :: fields) => by
    have hvalue := all_isEncodable_pieces layout (level + 1) [] value
    have hfields := all_isEncodable_fieldPieces layout level fields
    simp [pieces, hvalue, hfields, isSome_toText?_quote, isEncodable, areEncodableFields,
      Bool.and_assoc]

theorem all_isEncodable_itemPieces (layout : Layout) (level : Nat) :
    ∀ items, (itemPieces layout level items).all Piece.isEncodable = areEncodable items
  | [] => rfl
  | item :: items => by
    rw [itemPieces, List.all_append, all_isEncodable_pieces layout (level + 1) _ item,
      all_isEncodable_itemPieces layout level items, areEncodable]

theorem all_isEncodable_fieldPieces (layout : Layout) (level : Nat) :
    ∀ fields, (fieldPieces layout level fields).all Piece.isEncodable = areEncodableFields fields
  | [] => rfl
  | (key, value) :: fields => by
    have hvalue := all_isEncodable_pieces layout (level + 1) [] value
    have hfields := all_isEncodable_fieldPieces layout level fields
    simp [fieldPieces, hvalue, hfields, isSome_toText?_quote, areEncodableFields, Bool.and_assoc]

end

/-! ## Pieces that do not lie too deep -/

/-- A value without parts lies on the level of its container. -/
theorem isShallow_scalarPiece (lead : Text) (value : Json) :
    (scalarPiece lead value).isShallow = true := by
  unfold scalarPiece
  split <;> rfl

/-- On the first level nothing lies around a list, on the next one a single list does, and so on. -/
theorem isShallow_nested (level : Nat) :
    (Piece.nested level).isShallow = decide (0 < nestingLimit + 1 - level) := by
  rw [Piece.isShallow, decide_eq_decide]
  omega

mutual

/-- No piece of a value lies too deep exactly if the value is shallow, from its level on. -/
theorem all_isShallow_pieces (layout : Layout) (level : Nat) (lead : Text) :
    ∀ value, (pieces layout level lead value).all Piece.isShallow =
      isShallow (nestingLimit + 1 - level) value
  | .null => rfl
  | .bool b => rfl
  | .int n => rfl
  | .float x => by simp [pieces, isShallow_scalarPiece, isShallow]
  | .str s => rfl
  | .arr [] => by simp [pieces, isShallow_scalarPiece, isShallow_nested, isShallow, areShallow]
  | .arr (item :: items) => by
    have hitem := all_isShallow_pieces layout (level + 1) ('[' :: layout.newline level) item
    have hitems := all_isShallow_itemPieces layout level items
    -- One level less is left for what is inside.
    have hlevel : nestingLimit + 1 - level - 1 = nestingLimit - level := by omega
    rw [Nat.add_sub_add_right] at hitem
    simp [pieces, hitem, hitems, isShallow_nested, isShallow, areShallow, hlevel]
  | .obj [] => by
    simp [pieces, isShallow_scalarPiece, isShallow_nested, isShallow, areShallowFields]
  | .obj ((key, value) :: fields) => by
    have hvalue := all_isShallow_pieces layout (level + 1) [] value
    have hfields := all_isShallow_fieldPieces layout level fields
    have hlevel : nestingLimit + 1 - level - 1 = nestingLimit - level := by omega
    rw [Nat.add_sub_add_right] at hvalue
    simp [pieces, hvalue, hfields, isShallow_nested, isShallow, areShallowFields, hlevel]

theorem all_isShallow_itemPieces (layout : Layout) (level : Nat) :
    ∀ items, (itemPieces layout level items).all Piece.isShallow =
      areShallow (nestingLimit - level) items
  | [] => rfl
  | item :: items => by
    have hitem := all_isShallow_pieces layout (level + 1) (layout.separator level) item
    rw [Nat.add_sub_add_right] at hitem
    rw [itemPieces, List.all_append, hitem, all_isShallow_itemPieces layout level items,
      areShallow]

theorem all_isShallow_fieldPieces (layout : Layout) (level : Nat) :
    ∀ fields, (fieldPieces layout level fields).all Piece.isShallow =
      areShallowFields (nestingLimit - level) fields
  | [] => rfl
  | (key, value) :: fields => by
    have hvalue := all_isShallow_pieces layout (level + 1) [] value
    have hfields := all_isShallow_fieldPieces layout level fields
    rw [Nat.add_sub_add_right] at hvalue
    simp [fieldPieces, hvalue, hfields, areShallowFields]

end

end Json

namespace DocumentFile

variable {layout : Json.Layout} {value : Json} {bytes : Bytes}

/-! ## From pieces to bytes -/

/-- Pieces that can be written become the bytes of their characters. -/
theorem mapM_bytesOfPiece {pieces : List Json.Piece}
    (hencodable : pieces.all Json.Piece.isEncodable = true)
    (hshallow : pieces.all Json.Piece.isShallow = true) :
    ∃ t parts, pieces.flatMap Json.Piece.code = CodeText.ofText t ∧
      pieces.mapM bytesOfPiece = .ok parts ∧ parts.flatten = Utf8.encode t := by
  induction pieces with
  | nil => exact ⟨[], [], rfl, rfl, rfl⟩
  | cons piece pieces ih =>
    rw [List.all_cons, Bool.and_eq_true] at hencodable hshallow
    obtain ⟨t, parts, hcode, hparts, hbytes⟩ := ih hencodable.2 hshallow.2
    -- Each kind of piece is written as what it stands for.
    obtain ⟨s, hs, hpiece⟩ : ∃ s, piece.code = CodeText.ofText s ∧
        bytesOfPiece piece = .ok (Utf8.encode s) := by
      cases piece with
      | text s =>
        obtain ⟨s, rfl⟩ := CodeText.exists_eq_ofText_of_toText? hencodable.1
        refine ⟨s, rfl, ?_⟩
        rw [bytesOfPiece, Utf8.encodeCode, CodeText.toText?_ofText]
        rfl
      | integer lead n =>
        have hsize : (Text.ofNat n.natAbs).length ≤ Json.digitLimit := by
          simpa [Json.Piece.isEncodable] using hencodable.1
        refine ⟨lead ++ Text.ofInt n, rfl, ?_⟩
        rw [bytesOfPiece, if_neg (Nat.not_lt.mpr hsize)]
      | nested level =>
        have hlevel : level ≤ Json.nestingLimit := by
          simpa [Json.Piece.isShallow] using hshallow.1
        refine ⟨[], rfl, ?_⟩
        rw [bytesOfPiece, if_neg (Nat.not_lt.mpr hlevel)]
        rfl
    refine ⟨s ++ t, Utf8.encode s :: parts, ?_, ?_, ?_⟩
    · rw [List.flatMap_cons, hs, hcode, Json.ofText_append]
    · rw [List.mapM_cons, hpiece, hparts]
      rfl
    · rw [List.flatten_cons, hbytes, Utf8.encode_append]

/-- A piece that was written could be written. -/
theorem bytesOfPiece_eq_ok {piece : Json.Piece} (h : bytesOfPiece piece = .ok bytes) :
    piece.isEncodable = true ∧ piece.isShallow = true := by
  cases piece with
  | text s =>
    rw [bytesOfPiece, Except.mapError_eq_ok, Utf8.encodeCode] at h
    rw [Json.Piece.isEncodable]
    split at h
    next htext => exact ⟨by rw [htext]; rfl, rfl⟩
    next => cases h
  | integer lead n =>
    rw [bytesOfPiece] at h
    split at h
    next => cases h
    next hsize => exact ⟨decide_eq_true (Nat.not_lt.mp hsize), rfl⟩
  | nested level =>
    rw [bytesOfPiece] at h
    split at h
    next => cases h
    next hlevel => exact ⟨rfl, decide_eq_true (Nat.not_lt.mp hlevel)⟩

/-- Only pieces that can be written were written. -/
theorem mapM_eq_ok {pieces : List Json.Piece} {parts : List Bytes}
    (h : pieces.mapM bytesOfPiece = .ok parts) :
    pieces.all Json.Piece.isEncodable = true ∧ pieces.all Json.Piece.isShallow = true := by
  induction pieces generalizing parts with
  | nil => exact ⟨rfl, rfl⟩
  | cons piece pieces ih =>
    rw [List.mapM_cons, Except.bind_eq_ok] at h
    obtain ⟨part, hpart, h⟩ := h
    obtain ⟨rest, hrest, -⟩ := Except.bind_eq_ok.mp h
    obtain ⟨hencodable, hshallow⟩ := bytesOfPiece_eq_ok hpart
    obtain ⟨hencodable', hshallow'⟩ := ih hrest
    rw [List.all_cons, List.all_cons, hencodable, hshallow, hencodable', hshallow']
    exact ⟨rfl, rfl⟩

/-- The line feed behind a document changes nothing about whether it can be written. -/
theorem all_isEncodable_printed (layout : Json.Layout) (value : Json) :
    (Json.printed layout value ++ [Json.Piece.text (.ofString "\n")]).all Json.Piece.isEncodable =
      Json.isEncodable value := by
  rw [Json.printed, List.all_append, Json.all_isEncodable_pieces]
  exact Bool.and_true _

theorem all_isShallow_printed (layout : Json.Layout) (value : Json) :
    (Json.printed layout value ++ [Json.Piece.text (.ofString "\n")]).all Json.Piece.isShallow =
      Json.isShallow Json.nestingLimit value := by
  rw [Json.printed, List.all_append, Json.all_isShallow_pieces]
  exact Bool.and_true _

/-- The bytes of a document: what is printed, followed by a line feed, in UTF-8. -/
def Spells (layout : Json.Layout) (value : Json) (bytes : Bytes) : Prop :=
  ∃ t, Json.print layout value ++ [.char '\n'] = CodeText.ofText t ∧ bytes = Utf8.encode t

/-- An encodable document that is not too deep has bytes. -/
theorem bytesOf_eq_ok (layout : Json.Layout) (hencodable : Json.isEncodable value = true)
    (hshallow : Json.isShallow Json.nestingLimit value = true) :
    ∃ bytes, bytesOf layout value = .ok bytes ∧ Spells layout value bytes := by
  obtain ⟨t, parts, hcode, hparts, hbytes⟩ := mapM_bytesOfPiece
    ((all_isEncodable_printed layout value).trans hencodable)
    ((all_isShallow_printed layout value).trans hshallow)
  refine ⟨Utf8.encode t, ?_, t, ?_, rfl⟩
  · rw [bytesOf, hparts, ← hbytes]
    rfl
  · rw [← hcode, List.flatMap_append]
    rfl

/-- Only an encodable document that is not too deep has bytes. -/
theorem isEncodable_of_bytesOf (h : bytesOf layout value = .ok bytes) :
    Json.isEncodable value = true ∧ Json.isShallow Json.nestingLimit value = true := by
  rw [bytesOf] at h
  obtain ⟨parts, hparts, -⟩ := Except.bind_eq_ok.mp h
  obtain ⟨hencodable, hshallow⟩ := mapM_eq_ok hparts
  exact ⟨(all_isEncodable_printed layout value).symm.trans hencodable,
    (all_isShallow_printed layout value).symm.trans hshallow⟩

/-- The bytes of a document spell it. -/
theorem spells_of_bytesOf (h : bytesOf layout value = .ok bytes) : Spells layout value bytes := by
  obtain ⟨hencodable, hshallow⟩ := isEncodable_of_bytesOf h
  obtain ⟨bytes', hbytes, hspells⟩ := bytesOf_eq_ok layout hencodable hshallow
  obtain rfl : bytes = bytes' := Except.ok.inj (h.symm.trans hbytes)
  exact hspells

/-- What is read from a file is what its bytes spell. -/
theorem read_of_status {t : FileTree} {path : Path} {place : Place} {mode : Nat}
    (h : t.status path = .ok (place, .file bytes mode)) : read t path = ofBytes path bytes := by
  simp [read, FileTree.status?, Files.read, h, Except.mapError, bind, Except.bind, pure, Except.pure]

/-- **A document is read back from its bytes.** -/
theorem ofBytes_bytesOf (hlayout : layout.IsReadable)
    (hexact : Json.isExact Json.nestingLimit value = true)
    (h : bytesOf layout value = .ok bytes) (path : Path) : ofBytes path bytes = .ok value := by
  obtain ⟨t, hprint, hreturn, hread⟩ :=
    Json.read_print hlayout hexact (isEncodable_of_bytesOf h).1
  obtain ⟨t', hprint', rfl⟩ := spells_of_bytesOf h
  -- What is written is what is printed, and the line feed that the reader passes over.
  obtain rfl : t' = t ++ ['\n'] := by
    have htext : CodeText.ofText t' = CodeText.ofText (t ++ ['\n']) := by
      rw [← hprint', hprint, Json.ofText_append]
      rfl
    simpa [CodeText.toText?_ofText] using congrArg CodeText.toText? htext
  have hunify : Text.unifyNewlines (t ++ ['\n']) = t ++ ['\n'] :=
    Text.unifyNewlines_eq_self (by simp [hreturn])
  rw [ofBytes, Utf8.decode_encode]
  simp only [Except.mapError, bind, Except.bind, hunify]
  rw [hread ['\n'] (by simp [Json.Gap])]

end DocumentFile

end RouteAtlas
