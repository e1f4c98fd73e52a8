import RouteAtlas.Proofs.Json.Quote
import RouteAtlas.Proofs.Json.Scalar
import RouteAtlas.Proofs.Text.CodeText

/-!
# Documents read back

A document without floating-point numbers is read back as it was printed: `read_print`. No object
of it may have one key twice, it may not be nested deeper than the reader goes (`isExact`), its
strings have to be texts, and its integers may not be longer than the reader takes (`isEncodable`).

`Spells` says what the characters of a value are and that the reader takes them back. They are
found by recursion on the value: `exists_spells`, together with `exists_spellsItems` and
`exists_spellsFields` for what follows the first item of a list and the first field of an object.
What is written between the parts is a `Gap`, which the reader skips.

Printing and reading do not follow the same recursion. A value is printed by its constructors, and
it is read by what comes next in the text, with a bound on the descent and with the place for
messages. So the relation is made for going through both at once. It holds of a value with any text
behind it, at any place, and it says where the reader stands then; and of the first item or field it
is known that it begins with something that is no blank, for that is where the reader looks whether
a list or an object is over.

A bound for the items of one list is not the bound on the descent. It is taken from the length of
the text that is left, and every item takes at least its separator from that, so that it is never
used up.
-/

namespace RouteAtlas.Json

/-- Blanks and line feeds. -/
def Gap (s : Text) : Prop := ∀ c ∈ s, c = ' ' ∨ c = '\n'

/-- What stands between the parts of a document can be read over. -/
structure Layout.IsReadable (layout : Layout) : Prop where
  afterComma : Gap layout.afterComma
  afterKey : ∃ gap, layout.afterKey = ':' :: gap ∧ Gap gap

/-- A text that blanks do not begin. -/
def StartsFilled (s : Text) : Prop := ∀ c ∈ s.head?, isDocumentBlank c = false

mutual

/-- No number of the value is a floating-point number, no object of it has a key twice, and at most
`depth` lists and objects lie inside one another. -/
def isExact (depth : Nat) : Json → Bool
  | .float _ => false
  | .arr items => decide (0 < depth) && areExact (depth - 1) items
  | .obj fields =>
    decide (0 < depth) && decide (fields.map Prod.fst).Nodup && areExactFields (depth - 1) fields
  | _ => true

/-- All items are exact. -/
def areExact (depth : Nat) : List Json → Bool
  | [] => true
  | item :: items => isExact depth item && areExact depth items

/-- The values of all fields are exact. -/
def areExactFields (depth : Nat) : List (CodeText × Json) → Bool
  | [] => true
  | (_, value) :: fields => isExact depth value && areExactFields depth fields

end

mutual

/-- The strings of a value are texts, and its integers have no more digits than are read. -/
def isEncodable : Json → Bool
  | .int n => decide ((Text.ofNat n.natAbs).length ≤ digitLimit)
  | .str s => s.toText?.isSome
  | .arr items => areEncodable items
  | .obj fields => areEncodableFields fields
  | _ => true

/-- All items are encodable. -/
def areEncodable : List Json → Bool
  | [] => true
  | item :: items => isEncodable item && areEncodable items

/-- The keys and values of all fields are encodable. -/
def areEncodableFields : List (CodeText × Json) → Bool
  | [] => true
  | (key, value) :: fields =>
    key.toText?.isSome && isEncodable value && areEncodableFields fields

end

/-! ## Gaps -/

section Gaps

variable {gap rest : Text} {layout : Layout}

theorem Gap.noReturn (h : Gap gap) : '\r' ∉ gap := by
  intro hmem
  rcases h _ hmem with h | h <;> exact absurd h (by decide)

/-- What begins with something else than a blank has no gap in front. -/
theorem startsFilled_cons {c : Char} (h : isDocumentBlank c = false) (rest : Text) :
    StartsFilled (c :: rest) := by
  intro d hd
  obtain rfl : c = d := Option.some.inj hd
  exact h

/-- The reader skips a gap. -/
theorem Gap.skipBlanks (h : Gap gap) (hrest : StartsFilled rest) (place : Nat) :
    (Cursor.mk (gap ++ rest) place).skipBlanks = ⟨rest, place + gap.length⟩ := by
  have hblank : ∀ c ∈ gap, isDocumentBlank c = true := by
    intro c hc
    rcases h c hc with rfl | rfl <;> rfl
  rw [Cursor.skipBlanks, Text.takeWhile_append_eq_left hblank hrest]
  simp only [Cursor.skip, List.drop_left]

/-- A gap and what may follow a value end a number. -/
theorem Gap.endsNumber (h : Gap gap) (hrest : EndsNumber rest) : EndsNumber (gap ++ rest) := by
  cases gap with
  | nil => exact hrest
  | cons c tail =>
    intro d hd
    obtain rfl : c = d := Option.some.inj hd
    rcases h c List.mem_cons_self with rfl | rfl <;> decide

/-- The line feed and the indentation between two parts are a gap. -/
theorem Layout.gap_newline (layout : Layout) (level : Nat) : Gap (layout.newline level) := by
  unfold newline
  split
  next => intro c hc; exact absurd hc (by simp)
  next width _ =>
    intro c hc
    rcases List.mem_cons.mp hc with rfl | hc
    · exact .inr rfl
    · exact .inl (List.eq_of_mem_replicate hc)

/-- A separator is a comma and a gap. -/
theorem Layout.IsReadable.separator (h : layout.IsReadable) (level : Nat) :
    ∃ gap, layout.separator level = ',' :: gap ∧ Gap gap := by
  unfold Layout.separator
  split
  next => exact ⟨_, rfl, h.afterComma⟩
  next => exact ⟨_, rfl, layout.gap_newline level⟩

end Gaps

/-! ## Values and their characters -/

/-- The characters `t` stand for a value: they are what the printer makes of it, and the reader
takes them back, whatever follows, unless it would carry a number on. -/
structure Spells (layout : Layout) (level depth : Nat) (value : Json) (t : Text) : Prop where
  printed : ∀ lead, (pieces layout level lead value).flatMap Piece.code =
    CodeText.ofText (lead ++ t)
  start : ∃ c tail, t = c :: tail ∧ isDocumentBlank c = false ∧ c ≠ ']' ∧ c ≠ '\ufeff'
  noReturn : '\r' ∉ t
  read : ∀ rest place, EndsNumber rest →
    ∃ place', readValue depth ⟨t ++ rest, place⟩ = .ok (value, ⟨rest, place'⟩)

variable {layout : Layout} {level depth : Nat}

theorem Spells.startsFilled {value : Json} {t : Text} (h : Spells layout level depth value t)
    (rest : Text) : StartsFilled (t ++ rest) := by
  obtain ⟨c, tail, rfl, hblank, -⟩ := h.start
  exact startsFilled_cons hblank _

/-- Values that begin neither a list nor an object nor a string are read as such. -/
theorem readValue_scalar {c : Char} (hquote : c ≠ '"') (hlist : c ≠ '[') (hobject : c ≠ '{')
    (depth : Nat) (s : Text) (place : Nat) :
    readValue depth ⟨c :: s, place⟩ = readScalar ⟨c :: s, place⟩ := by
  cases depth <;> simp [readValue, hquote, hlist, hobject]

/-- What begins with a quote is read as a string. -/
theorem readValue_quote (depth : Nat) (s : Text) (place : Nat) :
    readValue depth ⟨'"' :: s, place⟩ =
      readString ⟨'"' :: s, place⟩ >>= fun (s, next) => .ok (.str s, next) := by
  cases depth <;> rfl

/-- Texts are put one behind the other in code points as well. -/
theorem ofText_append (a b : Text) :
    CodeText.ofText (a ++ b) = CodeText.ofText a ++ CodeText.ofText b := List.map_append

theorem spells_null : Spells layout level depth .null "null".toList where
  printed lead := by
    rw [ofText_append]
    exact List.append_nil _
  start := ⟨'n', _, rfl, by decide⟩
  noReturn := by decide
  read rest place _ := ⟨place + 4, by
    rw [← readScalar_null rest place]
    exact readValue_scalar (by decide) (by decide) (by decide) depth _ place⟩

theorem spells_bool (b : Bool) :
    Spells layout level depth (.bool b) (if b then "true" else "false").toList where
  printed lead := by
    rw [ofText_append]
    exact List.append_nil _
  start := by
    cases b
    · exact ⟨'f', _, rfl, by decide⟩
    · exact ⟨'t', _, rfl, by decide⟩
  noReturn := by cases b <;> decide
  read rest place _ := by
    obtain ⟨place', hread⟩ := readScalar_bool b rest place
    refine ⟨place', ?_⟩
    rw [← hread]
    cases b <;> exact readValue_scalar (by decide) (by decide) (by decide) depth _ place

/-- The numeral of an integer begins with a digit or a minus sign. -/
theorem exists_ofInt_eq_cons (n : Int) :
    ∃ c digits, Text.ofInt n = c :: digits ∧ (c = '-' ∨ Text.isAsciiDigit c = true) ∧
      ∀ d ∈ digits, Text.isAsciiDigit d = true := by
  cases n with
  | ofNat m =>
    obtain ⟨d, digits, hdigits, hd⟩ := exists_ofNat_eq_cons m
    refine ⟨d, digits, hdigits, .inr hd, fun c hc => ?_⟩
    exact Text.isAsciiDigit_of_mem_ofNat (hdigits ▸ List.mem_cons_of_mem _ hc)
  | negSucc m =>
    exact ⟨'-', _, rfl, .inl rfl, fun c hc => Text.isAsciiDigit_of_mem_ofNat hc⟩

/-- An integer is its numeral, unless that has too many digits. -/
theorem spells_int {n : Int} (hlimit : (Text.ofNat n.natAbs).length ≤ digitLimit) :
    Spells layout level depth (.int n) (Text.ofInt n) := by
  obtain ⟨c, digits, hdigits, hc, hall⟩ := exists_ofInt_eq_cons n
  have hne {d : Char} (hminus : d ≠ '-') (hdigit : Text.isAsciiDigit d = false) : c ≠ d := by
    rintro rfl
    rcases hc with rfl | hc
    · exact hminus rfl
    · exact absurd hc (by simp [hdigit])
  have hblank : isDocumentBlank c = false := by
    have h1 := hne (d := ' ') (by decide) (by decide)
    have h2 := hne (d := '\t') (by decide) (by decide)
    have h3 := hne (d := '\n') (by decide) (by decide)
    have h4 := hne (d := '\r') (by decide) (by decide)
    simp [isDocumentBlank, h1, h2, h3, h4]
  refine ⟨fun lead => List.append_nil _, ⟨c, digits, hdigits, hblank, hne (by decide) (by decide),
    hne (by decide) (by decide)⟩, ?_,
    fun rest place hrest => ⟨place + (Text.ofInt n).length, ?_⟩⟩
  · rw [hdigits, List.mem_cons, not_or]
    exact ⟨(hne (by decide) (by decide)).symm, fun hmem => absurd (hall _ hmem) (by decide)⟩
  · rw [← readScalar_ofInt hlimit hrest place, hdigits]
    exact readValue_scalar (hne (by decide) (by decide)) (hne (by decide) (by decide))
      (hne (by decide) (by decide)) depth _ place

/-- A text is quoted, and what is quoted is unquoted by the reader. -/
theorem spells_str (s : Text) : ∃ t, Spells layout level depth (.str (.ofText s)) t := by
  obtain ⟨q, hprinted, hreturn, hread⟩ := readString_quote s
  refine ⟨'"' :: q ++ ['"'], ?_, ⟨'"', q ++ ['"'], rfl, by decide⟩, by simp [hreturn], ?_⟩
  · intro lead
    rw [ofText_append, ← hprinted]
    exact List.append_nil _
  · intro rest place _
    obtain ⟨place', hend⟩ := hread rest place
    refine ⟨place', ?_⟩
    have htail : '"' :: q ++ ['"'] ++ rest = '"' :: (q ++ '"' :: rest) := by simp
    rw [htail, readValue_quote, hend]
    rfl

/-! ## Lists -/

/-- A comma or a closing bracket ends a number. -/
theorem endsNumber_cons {c : Char} (h : c = ',' ∨ c = ']' ∨ c = '}') (rest : Text) :
    EndsNumber (c :: rest) := by
  intro d hd
  obtain rfl : c = d := Option.some.inj hd
  rcases h with rfl | rfl | rfl <;> decide

section ReadItems

variable {item : Cursor → Except ReadFault (Json × Cursor)} {cur : Cursor} {value : Json}
  {gap rest : Text} {place : Nat}

/-- Behind an item stands the end of the list. -/
theorem readItems_close (hgap : Gap gap)
    (hitem : item cur = .ok (value, ⟨gap ++ ']' :: rest, place⟩)) (fuel : Nat) (read : List Json) :
    readItems item (fuel + 1) cur read =
      .ok (.arr (read.reverse ++ [value]), ⟨rest, place + gap.length + 1⟩) := by
  simp only [readItems, hitem, bind, Except.bind, List.reverse_cons,
    hgap.skipBlanks (startsFilled_cons (c := ']') rfl rest)]
  rfl

/-- Behind an item stand a comma and the next one. -/
theorem readItems_comma (hgap : Gap gap) (hrest : StartsFilled rest)
    (hitem : item cur = .ok (value, ⟨',' :: (gap ++ rest), place⟩)) (fuel : Nat)
    (read : List Json) :
    readItems item (fuel + 1) cur read =
      readItems item fuel ⟨rest, place + 1 + gap.length⟩ (value :: read) := by
  have hcomma : (Cursor.mk (',' :: (gap ++ rest)) place).skipBlanks =
      ⟨',' :: (gap ++ rest), place⟩ := rfl
  have hskip := hgap.skipBlanks hrest (place + 1)
  simp only [readItems, hitem, bind, Except.bind, hcomma]
  rw [← hskip]
  rfl

end ReadItems

/-- The characters `t` stand for the items of a list behind its first one, with the commas before
them. -/
structure SpellsItems (layout : Layout) (level depth : Nat) (items : List Json) (t : Text) :
    Prop where
  printed : (itemPieces layout level items).flatMap Piece.code = CodeText.ofText t
  noReturn : '\r' ∉ t
  read : ∀ {first : Json} {tfirst gap : Text}, Spells layout (level + 1) depth first tfirst →
    Gap gap → ∀ (fuel place : Nat) (rest : Text) (read : List Json), t.length < fuel →
    ∃ place', readItems (readValue depth) fuel ⟨tfirst ++ (t ++ (gap ++ ']' :: rest)), place⟩ read =
      .ok (.arr (read.reverse ++ first :: items), ⟨rest, place'⟩)

/-- Behind the last item there is nothing more of a list. -/
theorem spellsItems_nil : SpellsItems layout level depth [] [] where
  printed := rfl
  noReturn := by simp
  read hfirst hgap fuel place rest read hfuel := by
    obtain ⟨fuel, rfl⟩ : ∃ n, fuel = n + 1 := Nat.exists_eq_add_one.mpr (Nat.zero_lt_of_lt hfuel)
    obtain ⟨middle, hread⟩ :=
      hfirst.read _ place (hgap.endsNumber (endsNumber_cons (c := ']') (by simp) rest))
    exact ⟨_, readItems_close hgap hread fuel read⟩

theorem spellsItems_cons (hlayout : layout.IsReadable) {item : Json} {items : List Json}
    {titem t : Text} (hitem : Spells layout (level + 1) depth item titem)
    (hitems : SpellsItems layout level depth items t) :
    SpellsItems layout level depth (item :: items) (layout.separator level ++ titem ++ t) := by
  obtain ⟨gap, hseparator, hgap⟩ := hlayout.separator level
  refine ⟨?_, ?_, ?_⟩
  · rw [itemPieces, List.flatMap_append, hitem.printed, hitems.printed, ← ofText_append]
  · simp [hseparator, hgap.noReturn, hitem.noReturn, hitems.noReturn]
  · intro first tfirst gap' hfirst hgap' fuel place rest read hfuel
    rw [hseparator] at hfuel ⊢
    simp only [List.cons_append, List.length_cons, List.append_assoc, List.length_append] at hfuel ⊢
    obtain ⟨fuel, rfl⟩ : ∃ n, fuel = n + 1 := Nat.exists_eq_add_one.mpr (by omega)
    -- The first item is read up to the comma, and the item behind it is the first one of the rest.
    obtain ⟨middle, hread⟩ := hfirst.read _ place (endsNumber_cons (c := ',') (by simp) _)
    obtain ⟨place', hend⟩ := hitems.read hitem hgap' fuel (middle + 1 + gap.length) rest
      (first :: read) (by omega)
    refine ⟨place', ?_⟩
    rw [readItems_comma hgap (hitem.startsFilled _) hread, hend]
    simp

/-- Behind an opening bracket stands a first item. -/
theorem readValue_list {gap : Text} {c : Char} (hgap : Gap gap) (hblank : isDocumentBlank c = false)
    (hc : c ≠ ']') (depth : Nat) (s : Text) (place : Nat) :
    readValue (depth + 1) ⟨'[' :: (gap ++ c :: s), place⟩ =
      readItems (readValue depth) ((c :: s).length + 1) ⟨c :: s, place + 1 + gap.length⟩ [] := by
  have hskip : ((Cursor.mk ('[' :: (gap ++ c :: s)) place).skip 1).skipBlanks =
      ⟨c :: s, place + 1 + gap.length⟩ :=
    hgap.skipBlanks (startsFilled_cons hblank s) (place + 1)
  simp [readValue, hskip, hc]

/-- The characters of a list are those of its items between brackets. -/
theorem spells_arr_cons {item : Json} {items : List Json} {titem t : Text}
    (hitem : Spells layout (level + 1) depth item titem)
    (hitems : SpellsItems layout level depth items t) :
    Spells layout level (depth + 1) (.arr (item :: items))
      ('[' :: layout.newline level ++ titem ++ t ++ layout.newline (level - 1) ++ [']']) := by
  have hopen := layout.gap_newline level
  have hclose := layout.gap_newline (level - 1)
  refine ⟨?_, ⟨'[', _, rfl, by decide⟩, ?_, ?_⟩
  · -- What is printed.
    intro lead
    simp only [pieces, List.flatMap_append, List.flatMap_cons, hitem.printed, hitems.printed,
      Piece.code, List.flatMap_nil, List.append_nil, List.nil_append, CodeText.ofString,
      ← ofText_append]
    simp
  · simp [hopen.noReturn, hclose.noReturn, hitem.noReturn, hitems.noReturn]
  · -- And how it is read: the first item decides that the list is not over at once.
    intro rest place _
    obtain ⟨c, tail, rfl, hblank, hc, -⟩ := hitem.start
    obtain ⟨place', hend⟩ := hitems.read hitem hclose
      ((c :: tail ++ (t ++ (layout.newline (level - 1) ++ ']' :: rest))).length + 1)
      (place + 1 + (layout.newline level).length) rest [] (by simp; omega)
    refine ⟨place', ?_⟩
    rw [List.reverse_nil, List.nil_append, List.cons_append] at hend
    rw [← hend, ← readValue_list hopen hblank hc]
    simp

/-! ## Objects -/

/-- A new key is put at the end. -/
theorem insertField_eq_append {key : CodeText} {fields : List (CodeText × Json)}
    (h : key ∉ fields.map Prod.fst) (value : Json) :
    insertField key value fields = fields ++ [(key, value)] := by
  induction fields with
  | nil => rfl
  | cons field fields ih =>
    rw [List.map_cons, List.mem_cons, not_or] at h
    rw [insertField, if_neg (Ne.symm h.1), ih h.2, List.cons_append]

section ReadFields

variable {item : Cursor → Except ReadFault (Json × Cursor)} {cur : Cursor} {key : CodeText}
  {value : Json} {gap rest : Text} {place : Nat}

/-- Behind a field stands the end of the object. -/
theorem readFields_close (hgap : Gap gap)
    (hfield : readField item cur = .ok ((key, value), ⟨gap ++ '}' :: rest, place⟩)) (fuel : Nat)
    (read : List (CodeText × Json)) :
    readFields item (fuel + 1) cur read =
      .ok (.obj (insertField key value read), ⟨rest, place + gap.length + 1⟩) := by
  simp only [readFields, hfield, bind, Except.bind,
    hgap.skipBlanks (startsFilled_cons (c := '}') rfl rest)]
  rfl

/-- Behind a field stand a comma and the next one. -/
theorem readFields_comma (hgap : Gap gap) (hrest : StartsFilled rest)
    (hfield : readField item cur = .ok ((key, value), ⟨',' :: (gap ++ rest), place⟩)) (fuel : Nat)
    (read : List (CodeText × Json)) :
    readFields item (fuel + 1) cur read =
      readFields item fuel ⟨rest, place + 1 + gap.length⟩ (insertField key value read) := by
  have hcomma : (Cursor.mk (',' :: (gap ++ rest)) place).skipBlanks =
      ⟨',' :: (gap ++ rest), place⟩ := rfl
  have hskip := hgap.skipBlanks hrest (place + 1)
  simp only [readFields, hfield, bind, Except.bind, hcomma]
  rw [← hskip]
  rfl

end ReadFields

/-- The characters `t` stand for a field, from the quote of its key to the end of its value. -/
structure SpellsField (layout : Layout) (level depth : Nat) (field : CodeText × Json) (t : Text) :
    Prop where
  printed : (Piece.text (quote field.1) :: .text (.ofText layout.afterKey) ::
    pieces layout (level + 1) [] field.2).flatMap Piece.code = CodeText.ofText t
  start : ∃ tail, t = '"' :: tail
  noReturn : '\r' ∉ t
  read : ∀ rest place, EndsNumber rest →
    ∃ place', readField (readValue depth) ⟨t ++ rest, place⟩ = .ok (field, ⟨rest, place'⟩)

/-- A field is its key, a separator and its value. -/
theorem exists_spellsField (hlayout : layout.IsReadable) (key : Text) {value : Json} {tvalue : Text}
    (hvalue : Spells layout (level + 1) depth value tvalue) :
    ∃ t, SpellsField layout level depth (.ofText key, value) t := by
  obtain ⟨gap, hafter, hgap⟩ := hlayout.afterKey
  obtain ⟨q, hprinted, hreturn, hread⟩ := readString_quote key
  refine ⟨'"' :: q ++ ['"'] ++ ':' :: gap ++ tvalue, ?_, ⟨_, rfl⟩, ?_, ?_⟩
  · simp only [List.flatMap_cons, Piece.code, hprinted, hvalue.printed, hafter, ← ofText_append]
    simp
  · simp [hreturn, hgap.noReturn, hvalue.noReturn]
  · intro rest place hrest
    obtain ⟨middle, hkey⟩ := hread (':' :: (gap ++ (tvalue ++ rest))) place
    obtain ⟨place', hend⟩ := hvalue.read rest (middle + 1 + gap.length) hrest
    have hcolon : (Cursor.mk (':' :: (gap ++ (tvalue ++ rest))) middle).skipBlanks =
        ⟨':' :: (gap ++ (tvalue ++ rest)), middle⟩ := rfl
    have hskip : ((Cursor.mk (':' :: (gap ++ (tvalue ++ rest))) middle).skip 1).skipBlanks =
        ⟨tvalue ++ rest, middle + 1 + gap.length⟩ :=
      hgap.skipBlanks (hvalue.startsFilled rest) (middle + 1)
    have htext : '"' :: q ++ ['"'] ++ ':' :: gap ++ tvalue ++ rest =
        '"' :: (q ++ '"' :: ':' :: (gap ++ (tvalue ++ rest))) := by simp
    refine ⟨place', ?_⟩
    simp only [htext, readField, hkey, bind, Except.bind, hcolon, hskip, hend]

/-- The characters `t` stand for the fields of an object behind its first one, with the commas
before them. -/
structure SpellsFields (layout : Layout) (level depth : Nat) (fields : List (CodeText × Json))
    (t : Text) : Prop where
  printed : (fieldPieces layout level fields).flatMap Piece.code = CodeText.ofText t
  noReturn : '\r' ∉ t
  read : ∀ {first : CodeText × Json} {tfirst gap : Text},
    SpellsField layout level depth first tfirst → Gap gap →
    ∀ (fuel place : Nat) (rest : Text) (read : List (CodeText × Json)), t.length < fuel →
    ((read ++ first :: fields).map Prod.fst).Nodup →
    ∃ place',
      readFields (readValue depth) fuel ⟨tfirst ++ (t ++ (gap ++ '}' :: rest)), place⟩ read =
        .ok (.obj (read ++ first :: fields), ⟨rest, place'⟩)

/-- The key of a field that comes next is no key of the fields before it. -/
theorem not_mem_of_nodup_append {read fields : List (CodeText × Json)} {first : CodeText × Json}
    (h : ((read ++ first :: fields).map Prod.fst).Nodup) : first.1 ∉ read.map Prod.fst := by
  rw [List.map_append, List.map_cons, List.nodup_append] at h
  exact fun hmem => h.2.2 _ hmem _ List.mem_cons_self rfl

/-- Behind the last field there is nothing more of an object. -/
theorem spellsFields_nil : SpellsFields layout level depth [] [] where
  printed := rfl
  noReturn := by simp
  read hfirst hgap fuel place rest read hfuel hnodup := by
    obtain ⟨fuel, rfl⟩ : ∃ n, fuel = n + 1 := Nat.exists_eq_add_one.mpr (Nat.zero_lt_of_lt hfuel)
    obtain ⟨middle, hread⟩ :=
      hfirst.read _ place (hgap.endsNumber (endsNumber_cons (c := '}') (by simp) rest))
    rw [← insertField_eq_append (not_mem_of_nodup_append hnodup)]
    exact ⟨_, readFields_close hgap hread fuel read⟩

/-- One more field, behind a separator. Its key is a new one, so that the reader puts it at the end.
-/
theorem spellsFields_cons (hlayout : layout.IsReadable) {field : CodeText × Json}
    {fields : List (CodeText × Json)} {tfield t : Text}
    (hfield : SpellsField layout level depth field tfield)
    (hfields : SpellsFields layout level depth fields t) :
    SpellsFields layout level depth (field :: fields) (layout.separator level ++ tfield ++ t) := by
  obtain ⟨gap, hseparator, hgap⟩ := hlayout.separator level
  refine ⟨?_, ?_, ?_⟩
  · have hprinted := hfield.printed
    simp only [List.flatMap_cons, Piece.code] at hprinted
    simp only [fieldPieces, List.flatMap_append, List.flatMap_cons, Piece.code, hfields.printed,
      ofText_append, ← hprinted]
  · simp [hseparator, hgap.noReturn, hfield.noReturn, hfields.noReturn]
  · intro first tfirst gap' hfirst hgap' fuel place rest read hfuel hnodup
    rw [hseparator] at hfuel ⊢
    simp only [List.cons_append, List.length_cons, List.append_assoc, List.length_append] at hfuel ⊢
    obtain ⟨fuel, rfl⟩ : ∃ n, fuel = n + 1 := Nat.exists_eq_add_one.mpr (by omega)
    -- The value of the field in front is read up to the comma, and the reader goes on behind it.
    obtain ⟨middle, hread⟩ := hfirst.read _ place (endsNumber_cons (c := ',') (by simp) _)
    obtain ⟨place', hend⟩ := hfields.read hfield hgap' fuel (middle + 1 + gap.length) rest
      (read ++ [first]) (by omega) (by simpa using hnodup)
    have hfilled : StartsFilled (tfield ++ (t ++ (gap' ++ '}' :: rest))) := by
      obtain ⟨tail, rfl⟩ := hfield.start
      exact startsFilled_cons rfl _
    refine ⟨place', ?_⟩
    rw [readFields_comma hgap hfilled hread,
      insertField_eq_append (not_mem_of_nodup_append hnodup), hend]
    simp

/-- Behind an opening brace stands a first field. -/
theorem readValue_object {gap : Text} (hgap : Gap gap) (depth : Nat) (s : Text) (place : Nat) :
    readValue (depth + 1) ⟨'{' :: (gap ++ '"' :: s), place⟩ =
      readFields (readValue depth) (('"' :: s).length + 1) ⟨'"' :: s, place + 1 + gap.length⟩
        [] := by
  have hskip : ((Cursor.mk ('{' :: (gap ++ '"' :: s)) place).skip 1).skipBlanks =
      ⟨'"' :: s, place + 1 + gap.length⟩ :=
    hgap.skipBlanks (startsFilled_cons rfl s) (place + 1)
  simp [readValue, hskip]

/-- The characters of an object are those of its fields between braces. -/
theorem spells_obj_cons {field : CodeText × Json} {fields : List (CodeText × Json)}
    {tfield t : Text} (hfield : SpellsField layout level depth field tfield)
    (hfields : SpellsFields layout level depth fields t)
    (hnodup : ((field :: fields).map Prod.fst).Nodup) :
    Spells layout level (depth + 1) (.obj (field :: fields))
      ('{' :: layout.newline level ++ tfield ++ t ++ layout.newline (level - 1) ++ ['}']) := by
  have hopen := layout.gap_newline level
  have hclose := layout.gap_newline (level - 1)
  refine ⟨?_, ⟨'{', _, rfl, by decide⟩, ?_, ?_⟩
  · -- What is printed.
    intro lead
    have hprinted := hfield.printed
    simp only [List.flatMap_cons, Piece.code] at hprinted
    simp only [pieces, List.flatMap_append, List.flatMap_cons, hfields.printed, Piece.code,
      List.flatMap_nil, List.append_nil, CodeText.ofString, ofText_append, ← hprinted]
    simp [CodeText.ofText]
  · simp [hopen.noReturn, hclose.noReturn, hfield.noReturn, hfields.noReturn]
  · intro rest place _
    -- And how it is read: so far, the object has no fields.
    have hread := hfields.read hfield hclose
      ((tfield ++ (t ++ (layout.newline (level - 1) ++ '}' :: rest))).length + 1)
      (place + 1 + (layout.newline level).length) rest [] (by simp; omega) hnodup
    obtain ⟨tail, rfl⟩ := hfield.start
    obtain ⟨place', hend⟩ := hread
    refine ⟨place', ?_⟩
    rw [List.nil_append, List.cons_append] at hend
    rw [← hend, ← readValue_object hopen]
    simp

/-! ## Whole documents -/

/-- A list without items is written without any gap. -/
theorem spells_arr_nil : Spells layout level (depth + 1) (.arr []) ['[', ']'] where
  printed lead := by
    rw [ofText_append]
    exact List.append_nil _
  start := ⟨'[', _, rfl, by decide⟩
  noReturn := by decide
  read rest place _ := ⟨place + 2, rfl⟩

theorem spells_obj_nil : Spells layout level (depth + 1) (.obj []) ['{', '}'] where
  printed lead := by
    rw [ofText_append]
    exact List.append_nil _
  start := ⟨'{', _, rfl, by decide⟩
  noReturn := by decide
  read rest place _ := ⟨place + 2, rfl⟩

mutual

/-- **Every value that is exact and can be encoded has characters that the reader takes back.** The
recursion is on the value, and each level of it is one of the levels that the reader may descend. -/
theorem exists_spells (hlayout : layout.IsReadable) (level depth : Nat) :
    ∀ value, isExact depth value = true → isEncodable value = true →
      ∃ t, Spells layout level depth value t
  | .null, _, _ => ⟨_, spells_null⟩
  | .bool b, _, _ => ⟨_, spells_bool b⟩
  | .int n, _, hencodable => ⟨_, spells_int (by simpa [isEncodable] using hencodable)⟩
  | .float _, hexact, _ => absurd hexact (by simp [isExact])
  | .str s, _, hencodable => by
    obtain ⟨t, rfl⟩ := CodeText.exists_eq_ofText_of_toText?
      (by simpa [isEncodable] using hencodable)
    exact spells_str t
  | .arr [], hexact, _ => by
    obtain ⟨depth, rfl⟩ : ∃ n, depth = n + 1 :=
      Nat.exists_eq_add_one.mpr (by simpa [isExact, areExact] using hexact)
    exact ⟨_, spells_arr_nil⟩
  | .arr (item :: items), hexact, hencodable => by
    simp only [isExact, areExact, Bool.and_eq_true, decide_eq_true_eq] at hexact
    simp only [isEncodable, areEncodable, Bool.and_eq_true] at hencodable
    obtain ⟨depth, rfl⟩ : ∃ n, depth = n + 1 := Nat.exists_eq_add_one.mpr hexact.1
    obtain ⟨titem, hitem⟩ := exists_spells hlayout (level + 1) depth item hexact.2.1 hencodable.1
    obtain ⟨t, hitems⟩ := exists_spellsItems hlayout level depth items hexact.2.2 hencodable.2
    exact ⟨_, spells_arr_cons hitem hitems⟩
  | .obj [], hexact, _ => by
    obtain ⟨depth, rfl⟩ : ∃ n, depth = n + 1 :=
      Nat.exists_eq_add_one.mpr (by simpa [isExact, areExactFields] using hexact)
    exact ⟨_, spells_obj_nil⟩
  | .obj ((key, value) :: fields), hexact, hencodable => by
    simp only [isExact, areExactFields, Bool.and_eq_true, decide_eq_true_eq] at hexact
    simp only [isEncodable, areEncodableFields, Bool.and_eq_true] at hencodable
    obtain ⟨⟨hdepth, hnodup⟩, hvalue, hfields⟩ := hexact
    obtain ⟨depth, rfl⟩ : ∃ n, depth = n + 1 := Nat.exists_eq_add_one.mpr hdepth
    obtain ⟨key, rfl⟩ := CodeText.exists_eq_ofText_of_toText? hencodable.1.1
    obtain ⟨tvalue, hspells⟩ := exists_spells hlayout (level + 1) depth value hvalue hencodable.1.2
    obtain ⟨tfield, hfield⟩ := exists_spellsField hlayout key hspells
    obtain ⟨t, hrest⟩ := exists_spellsFields hlayout level depth fields hfields hencodable.2
    exact ⟨_, spells_obj_cons hfield hrest hnodup⟩

theorem exists_spellsItems (hlayout : layout.IsReadable) (level depth : Nat) :
    ∀ items, areExact depth items = true → areEncodable items = true →
      ∃ t, SpellsItems layout level depth items t
  | [], _, _ => ⟨_, spellsItems_nil⟩
  | item :: items, hexact, hencodable => by
    simp only [areExact, Bool.and_eq_true] at hexact
    simp only [areEncodable, Bool.and_eq_true] at hencodable
    obtain ⟨titem, hitem⟩ := exists_spells hlayout (level + 1) depth item hexact.1 hencodable.1
    obtain ⟨t, hitems⟩ := exists_spellsItems hlayout level depth items hexact.2 hencodable.2
    exact ⟨_, spellsItems_cons hlayout hitem hitems⟩

theorem exists_spellsFields (hlayout : layout.IsReadable) (level depth : Nat) :
    ∀ fields, areExactFields depth fields = true → areEncodableFields fields = true →
      ∃ t, SpellsFields layout level depth fields t
  | [], _, _ => ⟨_, spellsFields_nil⟩
  | (key, value) :: fields, hexact, hencodable => by
    simp only [areExactFields, Bool.and_eq_true] at hexact
    simp only [areEncodableFields, Bool.and_eq_true] at hencodable
    obtain ⟨key, rfl⟩ := CodeText.exists_eq_ofText_of_toText? hencodable.1.1
    obtain ⟨tvalue, hspells⟩ :=
      exists_spells hlayout (level + 1) depth value hexact.1 hencodable.1.2
    obtain ⟨tfield, hfield⟩ := exists_spellsField hlayout key hspells
    obtain ⟨t, hrest⟩ := exists_spellsFields hlayout level depth fields hexact.2 hencodable.2
    exact ⟨_, spellsFields_cons hlayout hfield hrest⟩

end

/-- **Documents are read back.** The characters printed for a value spell that value, also when a
line feed follows them. -/
theorem read_print (hlayout : layout.IsReadable) {value : Json}
    (hexact : isExact nestingLimit value = true) (hencodable : isEncodable value = true) :
    ∃ t, print layout value = .ofText t ∧ '\r' ∉ t ∧
      ∀ gap, Gap gap → Json.read (t ++ gap) = .ok value := by
  obtain ⟨t, hspells⟩ := exists_spells hlayout 1 nestingLimit value hexact hencodable
  refine ⟨t, hspells.printed [], hspells.noReturn, fun gap hgap => ?_⟩
  have hnil : StartsFilled [] := fun c hc => absurd hc (by simp)
  have hstart : (Cursor.mk (t ++ gap) 0).skipBlanks = ⟨t ++ gap, 0⟩ :=
    (show Gap [] by simp [Gap]).skipBlanks (hspells.startsFilled gap) 0
  have hends : EndsNumber gap := by
    rw [← List.append_nil gap]
    exact hgap.endsNumber fun c hc => absurd hc (by simp)
  obtain ⟨place', hread⟩ := hspells.read gap 0 hends
  have hend : (Cursor.mk gap place').skipBlanks = ⟨[], place' + gap.length⟩ := by
    simpa using hgap.skipBlanks hnil place'
  -- No value begins with a byte order mark, which would be refused.
  obtain ⟨c, tail, rfl, -, -, hmark⟩ := hspells.start
  unfold Json.read
  split
  next heq =>
    obtain ⟨rfl, -⟩ := List.cons.inj heq
    exact absurd rfl hmark
  next =>
    simp only [bind, Except.bind, hstart, hread, hend]
    rfl

end RouteAtlas.Json
