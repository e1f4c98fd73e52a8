import RouteAtlas.Json.Reader
import Mathlib.Data.List.Infix

/-!
# The limits of the reader

The reader gives up on a text for two reasons that have nothing to do with its form: an integer has
too many digits, or too many lists and objects lie inside one another. Both show in the text: it has
that many digits in a row (`HasLongNumeral`), or that many opening brackets (`openings`). What a
reader comes to on a text is `Within` its limits, then. A reader leaves a suffix of its text, so
what the next one finds there is in the text as well (`Within.bind`), and from there it goes by the
parts of the reader.

So a text without a long row of digits and with few brackets is either a document or has a fault of
form, whatever else is in it. The converse is not true, and is not needed: digits may stand in a
string, and brackets may stand one behind the other.
-/

namespace RouteAtlas.Json

/-- More digits in a row than an integer may have. -/
def HasLongNumeral (s : Text) : Prop :=
  ∃ digits, digits <:+: s ∧ digits.all Text.isAsciiDigit = true ∧ digitLimit < digits.length

/-- How many lists and objects begin in a text, if no bracket is in a string. -/
def openings (s : Text) : Nat := s.countP fun c => c == '[' || c == '{'

/-- What is in a part of a text is in the text. -/
theorem HasLongNumeral.mono {s whole : Text} (h : HasLongNumeral s) (hsuffix : s <:+ whole) :
    HasLongNumeral whole := by
  obtain ⟨digits, hinside, hdigits, hlong⟩ := h
  exact ⟨digits, hinside.trans hsuffix.isInfix, hdigits, hlong⟩

theorem openings_le {s whole : Text} (hsuffix : s <:+ whole) : openings s ≤ openings whole :=
  hsuffix.sublist.countP_le

variable {α β : Type} {depth : Nat} {s whole : Text}

/-- What a reader that may go `depth` levels deeper comes to on a text: a cursor further on, or a
fault that the text accounts for. -/
def Within (depth : Nat) (s : Text) : Except ReadFault (α × Cursor) → Prop
  | .ok (_, next) => next.rest <:+ s
  | .error (.tooManyDigits _) => HasLongNumeral s
  | .error (.tooDeep _) => depth < openings s
  | .error _ => True

/-- What is said of a text is said of a longer one with the same end. -/
theorem Within.mono {result : Except ReadFault (α × Cursor)} (h : Within depth s result)
    (hsuffix : s <:+ whole) : Within depth whole result := by
  unfold Within at h ⊢
  split at h
  · exact h.trans hsuffix
  · exact h.mono hsuffix
  · exact Nat.lt_of_lt_of_le h (openings_le hsuffix)
  · trivial

/-- One reader after the other. -/
theorem Within.bind {result : Except ReadFault (α × Cursor)}
    {next : α × Cursor → Except ReadFault (β × Cursor)} (h : Within depth s result)
    (hnext : ∀ a cur, cur.rest <:+ s → Within depth cur.rest (next (a, cur))) :
    Within depth s (result >>= next) := by
  cases result with
  | ok found =>
    obtain ⟨a, cur⟩ := found
    exact (hnext a cur h).mono h
  | error fault => cases fault <;> exact h

/-! ## Cursors -/

theorem Cursor.skip_suffix (cur : Cursor) (n : Nat) : (cur.skip n).rest <:+ cur.rest :=
  List.drop_suffix n cur.rest

theorem Cursor.skipBlanks_suffix (cur : Cursor) : cur.skipBlanks.rest <:+ cur.rest :=
  cur.skip_suffix _

/-! ## Strings -/

/-- The code point that four digits alone stand for. -/
theorem within_codePoint (cur : Cursor) (code : Nat) : Within depth cur.rest
    (match CodePoint.ofCode? code with
      | some point => .ok (point, cur.skip 4)
      | none => .error (.misplaced "Invalid \\uXXXX escape" (cur.place - 1))) := by
  cases CodePoint.ofCode? code with
  | some point => exact cur.skip_suffix 4
  | none => trivial

/-- An escape is no number and has no brackets. -/
theorem within_readCodeEscape (cur : Cursor) : Within depth cur.rest (readCodeEscape cur) := by
  unfold readCodeEscape
  dsimp only
  split
  · trivial
  · split
    · trivial
    · split
      · split
        · split
          · exact within_codePoint cur _
          · split
            · trivial
            · split
              · exact ((cur.skip 4).skip_suffix 6).trans (cur.skip_suffix 4)
              · exact within_codePoint cur _
        · exact within_codePoint cur _
      · exact within_codePoint cur _

theorem within_readStringBody (start fuel : Nat) (cur : Cursor) (read : CodeText) :
    Within depth cur.rest (readStringBody start fuel cur read) := by
  induction fuel generalizing cur read with
  | zero => trivial
  | succ fuel ih =>
    unfold readStringBody
    split
    · trivial
    · exact cur.skip_suffix 1
    · refine Within.mono ?_ (cur.skip_suffix 2)
      exact (within_readCodeEscape (cur.skip 2)).bind fun point next _ => ih next _
    · split
      · exact (ih (cur.skip 2) _).mono (cur.skip_suffix 2)
      · trivial
    · trivial
    · split
      · trivial
      · exact (ih (cur.skip 1) _).mono (cur.skip_suffix 1)

theorem within_readString (cur : Cursor) : Within depth cur.rest (readString cur) :=
  (within_readStringBody _ _ (cur.skip 1) []).mono (cur.skip_suffix 1)

/-! ## Numbers -/

/-- The whole part of a number consists of digits at its beginning. -/
theorem wholePart_prefix (s : Text) :
    wholePart s <+: s ∧ (wholePart s).all Text.isAsciiDigit = true := by
  unfold wholePart
  split
  · exact ⟨⟨_, rfl⟩, rfl⟩
  · exact ⟨List.takeWhile_prefix _, List.all_takeWhile⟩

/-- **A number** has too many digits, or it is read. -/
theorem within_readNumber (cur : Cursor) : Within depth cur.rest (readNumber cur) := by
  have hsigned : (if hasMinus cur.rest then cur.rest.drop 1 else cur.rest) <:+ cur.rest := by
    split
    · exact List.drop_suffix 1 cur.rest
    · exact List.suffix_rfl
  unfold readNumber
  dsimp only
  generalize (if hasMinus cur.rest then cur.rest.drop 1 else cur.rest) = signed at hsigned ⊢
  split
  · trivial
  · split
    · split
      next hlong =>
        obtain ⟨hahead, hdigits⟩ := wholePart_prefix signed
        exact ⟨wholePart signed, hahead.isInfix.trans hsigned.isInfix, hdigits, hlong⟩
      next => exact cur.skip_suffix _
    · exact cur.skip_suffix _

/-- A value without parts is a word or a number. -/
theorem within_readScalar (cur : Cursor) : Within depth cur.rest (readScalar cur) := by
  unfold readScalar
  split
  · exact cur.skip_suffix _
  · exact within_readNumber cur

/-! ## Lists and objects -/

section Members

variable {item : Cursor → Except ReadFault (Json × Cursor)}

/-- The items of a list, one behind the other, with blanks and commas between them. -/
theorem within_readItems (hitem : ∀ cur, Within depth cur.rest (item cur)) (fuel : Nat)
    (cur : Cursor) (items : List Json) :
    Within depth cur.rest (readItems item fuel cur items) := by
  induction fuel generalizing cur items with
  | zero => trivial
  | succ fuel ih =>
    refine (hitem cur).bind fun value next _ => ?_
    refine Within.mono ?_ next.skipBlanks_suffix
    dsimp only
    split
    · exact next.skipBlanks.skip_suffix 1
    · refine (ih (next.skipBlanks.skip 1).skipBlanks (value :: items)).mono ?_
      exact (next.skipBlanks.skip 1).skipBlanks_suffix.trans (next.skipBlanks.skip_suffix 1)
    · trivial

/-- A field is a string, a colon and a value. -/
theorem within_readField (hitem : ∀ cur, Within depth cur.rest (item cur)) (cur : Cursor) :
    Within depth cur.rest (readField item cur) := by
  unfold readField
  split
  · refine (within_readString cur).bind fun key next _ => ?_
    refine Within.mono ?_ next.skipBlanks_suffix
    dsimp only
    split
    · have hvalue := (next.skipBlanks.skip 1).skipBlanks_suffix.trans
        (next.skipBlanks.skip_suffix 1)
      refine Within.mono ?_ hvalue
      exact (hitem _).bind fun value next _ => List.suffix_rfl
    · trivial
  · trivial

/-- The fields of an object, as the items of a list. -/
theorem within_readFields (hitem : ∀ cur, Within depth cur.rest (item cur)) (fuel : Nat)
    (cur : Cursor) (fields : List (CodeText × Json)) :
    Within depth cur.rest (readFields item fuel cur fields) := by
  induction fuel generalizing cur fields with
  | zero => trivial
  | succ fuel ih =>
    refine (within_readField hitem cur).bind fun field next _ => ?_
    refine Within.mono ?_ next.skipBlanks_suffix
    dsimp only
    split
    · exact next.skipBlanks.skip_suffix 1
    · refine (ih (next.skipBlanks.skip 1).skipBlanks _).mono ?_
      exact (next.skipBlanks.skip 1).skipBlanks_suffix.trans (next.skipBlanks.skip_suffix 1)
    · trivial

end Members

theorem openings_cons {c : Char} {rest : Text} (hc : c = '[' ∨ c = '{') :
    openings (c :: rest) = openings rest + 1 := by
  unfold openings
  rw [List.countP_cons_of_pos]
  rcases hc with rfl | rfl <;> rfl

/-- What is within the limits behind an opening bracket is so in front of it, one level further
out. -/
theorem Within.outward {inner rest : Text} {c : Char} {result : Except ReadFault (α × Cursor)}
    (h : Within depth inner result) (hc : c = '[' ∨ c = '{') (hinner : inner <:+ rest) :
    Within (depth + 1) (c :: rest) result := by
  have hmore : openings inner < openings (c :: rest) := by
    have hle := openings_le hinner
    rw [openings_cons hc]
    omega
  have hsuffix : inner <:+ c :: rest := hinner.trans (List.suffix_cons c rest)
  unfold Within at h ⊢
  split at h
  · exact h.trans hsuffix
  · exact h.mono hsuffix
  · exact Nat.lt_of_le_of_lt h hmore
  · trivial

/-- An opening bracket is one too many if no level is left. -/
theorem within_tooDeep {c : Char} {rest : Text} {inObject : Bool} (hc : c = '[' ∨ c = '{') :
    Within 0 (c :: rest) (.error (.tooDeep inObject) : Except ReadFault (α × Cursor)) := by
  show 0 < openings (c :: rest)
  rw [openings_cons hc]
  exact Nat.succ_pos _

/-- A value is read within the limits. The induction is on how many levels are left; each list or
object uses up one of them, and an opening bracket. -/
theorem within_readValue (depth : Nat) (cur : Cursor) :
    Within depth cur.rest (readValue depth cur) := by
  induction depth using Nat.strongRecOn generalizing cur with
  | ind depth ih =>
    -- Behind an opening bracket, the reader goes on in the rest.
    have hbehind {c : Char} {rest : Text} (hrest : cur.rest = c :: rest) :
        (cur.skip 1).skipBlanks.rest <:+ rest := by
      have hskip : (cur.skip 1).rest = rest := by
        rw [Cursor.skip, hrest]
        rfl
      exact hskip ▸ (cur.skip 1).skipBlanks_suffix
    fun_cases readValue depth cur with
    | case1 cur rest hrest =>
      exact (within_readString cur).bind fun text next _ => List.suffix_rfl
    | case2 cur rest hrest =>
      rw [hrest]
      exact within_tooDeep (.inl rfl)
    | case3 cur rest hrest =>
      rw [hrest]
      exact within_tooDeep (.inr rfl)
    | case4 cur rest depth hrest inner tail htail =>
      exact (inner.skip_suffix 1).trans
        ((cur.skip 1).skipBlanks_suffix.trans (cur.skip_suffix 1))
    | case5 cur rest depth hrest inner hitems =>
      have hinner := within_readItems (ih depth (Nat.lt_succ_self depth)) (inner.rest.length + 1)
        inner []
      rw [hrest]
      exact hinner.outward (.inl rfl) (hbehind hrest)
    | case6 cur rest depth hrest inner tail htail =>
      exact (inner.skip_suffix 1).trans
        ((cur.skip 1).skipBlanks_suffix.trans (cur.skip_suffix 1))
    | case7 cur rest depth hrest inner hfields =>
      have hinner := within_readFields (ih depth (Nat.lt_succ_self depth)) (inner.rest.length + 1)
        inner []
      rw [hrest]
      exact hinner.outward (.inr rfl) (hbehind hrest)
    | case8 depth cur => exact within_readScalar cur

/-! ## Documents -/

/-- The text is one that the reader may give up on. -/
def IsBeyondLimits (s : Text) : Prop := HasLongNumeral s ∨ nestingLimit < openings s

/-- The reader gives up on nothing else. -/
theorem isBeyondLimits_of_read {fault : ReadFault} (h : read s = .error fault)
    (hfault : (∃ inObject, fault = .tooDeep inObject) ∨ ∃ count, fault = .tooManyDigits count) :
    IsBeyondLimits s := by
  unfold read at h
  split at h
  · cases h
    rcases hfault with ⟨inObject, hfault⟩ | ⟨count, hfault⟩ <;> cases hfault
  · have hvalue := (within_readValue nestingLimit (Cursor.mk s 0).skipBlanks).mono
      (Cursor.mk s 0).skipBlanks_suffix
    cases hread : readValue nestingLimit (Cursor.mk s 0).skipBlanks with
    | error fault' =>
      rw [hread] at h hvalue
      cases h
      rcases hfault with ⟨inObject, rfl⟩ | ⟨count, rfl⟩
      · exact .inr hvalue
      · exact .inl hvalue
    | ok found =>
      -- Behind the value, nothing is wrong but more text.
      obtain ⟨value, next⟩ := found
      rw [hread] at h
      dsimp only [bind, Except.bind] at h
      split at h
      · cases h
      · cases h
        rcases hfault with ⟨inObject, hfault⟩ | ⟨count, hfault⟩ <;> cases hfault

end RouteAtlas.Json
