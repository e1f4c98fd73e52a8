import RouteAtlas.Json.Printer
import RouteAtlas.Json.Reader
import RouteAtlas.Proofs.Text.Numeral

/-!
# Numbers and words read back

An integer is read back from its numeral (`readScalar_ofInt`), as long as it has no more digits than
an integer of a document may have, and as long as what follows does not carry the number on
(`EndsNumber`). The words for the other values that hold no parts are read back as well.
-/

namespace RouteAtlas.Json

/-- A number does not go on with the beginning of this text. -/
def EndsNumber (rest : Text) : Prop :=
  ∀ c ∈ rest.head?, Text.isAsciiDigit c = false ∧ c ≠ '.' ∧ c ≠ 'e' ∧ c ≠ 'E'

variable {rest : Text}

theorem EndsNumber.fractionPart (h : EndsNumber rest) : fractionPart rest = [] := by
  unfold Json.fractionPart
  split
  next => exact absurd rfl (h '.' rfl).2.1
  next => rfl

theorem EndsNumber.exponentPart? (h : EndsNumber rest) : exponentPart? rest = none := by
  unfold Json.exponentPart?
  split
  next e tail =>
    obtain ⟨-, -, hlower, hupper⟩ := h e rfl
    simp [hlower, hupper]
  next => rfl

/-- The digits that are read before the end of a number are those of its numeral. -/
theorem EndsNumber.wholePart_ofNat (h : EndsNumber rest) (n : Nat) :
    wholePart (Text.ofNat n ++ rest) = Text.ofNat n := by
  unfold wholePart
  split
  next tail heq =>
    -- A zero in front is all of the numeral.
    have hhead : (Text.ofNat n).head? = some '0' := by
      rw [← List.head?_append_of_ne_nil _ (Text.ofNat_ne_nil n), heq, List.head?_cons]
    rw [Text.head?_ofNat_eq_zero_iff.mp hhead]
    rfl
  next =>
    exact Text.takeWhile_append_eq_left (fun c hc => Text.isAsciiDigit_of_mem_ofNat hc)
      fun c hc => (h c hc).1

/-- The first character of a numeral is a digit. -/
theorem exists_ofNat_eq_cons (n : Nat) :
    ∃ d digits, Text.ofNat n = d :: digits ∧ Text.isAsciiDigit d = true := by
  obtain ⟨d, digits, heq⟩ := List.exists_cons_of_ne_nil (Text.ofNat_ne_nil n)
  exact ⟨d, digits, heq, Text.isAsciiDigit_of_mem_ofNat (heq ▸ List.mem_cons_self)⟩

/-- A numeral of a natural number has no sign. -/
theorem hasMinus_ofNat (n : Nat) (rest : Text) : hasMinus (Text.ofNat n ++ rest) = false := by
  obtain ⟨d, digits, hdigits, hd⟩ := exists_ofNat_eq_cons n
  rw [hdigits, List.cons_append]
  unfold hasMinus
  split
  next heq =>
    obtain ⟨rfl, -⟩ := List.cons.inj heq
    exact absurd hd (by decide)
  next => rfl

/-- Skipping all but the rest leaves the rest. -/
theorem skip_length_sub (s rest : Text) (place : Nat) :
    (Cursor.mk (s ++ rest) place).skip ((s ++ rest).length - rest.length) =
      ⟨rest, place + s.length⟩ := by
  rw [List.length_append, Nat.add_sub_cancel, Cursor.skip, List.drop_left]

/-- **Integers are read back.** -/
theorem readNumber_ofInt {n : Int} (hlimit : (Text.ofNat n.natAbs).length ≤ digitLimit)
    (hrest : EndsNumber rest) (place : Nat) :
    readNumber ⟨Text.ofInt n ++ rest, place⟩ =
      .ok (.int n, ⟨rest, place + (Text.ofInt n).length⟩) := by
  have hne (m : Nat) : (Text.ofNat m).isEmpty = false := by
    simpa using Text.ofNat_ne_nil m
  cases n with
  | ofNat m =>
    simp only [readNumber, Text.ofInt, hasMinus_ofNat, Bool.false_eq_true, if_false,
      hrest.wholePart_ofNat, hne, List.drop_left, hrest.fractionPart, List.isEmpty_nil, if_true,
      hrest.exponentPart?]
    have hsize : ¬ digitLimit < (Text.ofNat m).length := Nat.not_lt.mpr hlimit
    rw [if_neg hsize, Text.decimalValue_ofNat, skip_length_sub]
    rfl
  | negSucc m =>
    have hminus : hasMinus ('-' :: (Text.ofNat (m + 1) ++ rest)) = true := rfl
    simp only [readNumber, Text.ofInt, hminus, if_true, List.cons_append, List.drop_one,
      List.tail_cons, hrest.wholePart_ofNat, hne, Bool.false_eq_true, if_false, List.drop_left,
      hrest.fractionPart, List.isEmpty_nil, hrest.exponentPart?]
    have hsize : ¬ digitLimit < (Text.ofNat (m + 1)).length := Nat.not_lt.mpr hlimit
    rw [if_neg hsize, Text.decimalValue_ofNat, ← List.cons_append, skip_length_sub]
    rfl

/-- A numeral is none of the words that stand for values. -/
theorem find?_wordValues_ofInt (n : Int) (rest : Text) :
    (wordValues.find? fun (word, _) => word.toList.isPrefixOf (Text.ofInt n ++ rest)) = none := by
  obtain ⟨d, digits, hdigits, hd⟩ := exists_ofNat_eq_cons n.natAbs
  have hne : 'n' ≠ d ∧ 't' ≠ d ∧ 'f' ≠ d ∧ 'N' ≠ d ∧ 'I' ≠ d ∧ '-' ≠ d := by
    refine ⟨?_, ?_, ?_, ?_, ?_, ?_⟩ <;> (rintro rfl; exact absurd hd (by decide))
  cases n with
  | ofNat m =>
    replace hdigits : Text.ofNat m = d :: digits := hdigits
    simp [wordValues, Text.ofInt, hdigits, hne]
  | negSucc m =>
    replace hdigits : Text.ofNat (m + 1) = d :: digits := hdigits
    simp [wordValues, Text.ofInt, hdigits, hne]

/-- Integers are values. -/
theorem readScalar_ofInt {n : Int} (hlimit : (Text.ofNat n.natAbs).length ≤ digitLimit)
    (hrest : EndsNumber rest) (place : Nat) :
    readScalar ⟨Text.ofInt n ++ rest, place⟩ =
      .ok (.int n, ⟨rest, place + (Text.ofInt n).length⟩) := by
  rw [readScalar, find?_wordValues_ofInt]
  exact readNumber_ofInt hlimit hrest place

theorem readScalar_null (rest : Text) (place : Nat) :
    readScalar ⟨"null".toList ++ rest, place⟩ = .ok (.null, ⟨rest, place + 4⟩) := rfl

theorem readScalar_bool (b : Bool) (rest : Text) (place : Nat) :
    ∃ place', readScalar ⟨(if b then "true" else "false").toList ++ rest, place⟩ =
      .ok (.bool b, ⟨rest, place'⟩) := by
  cases b
  · exact ⟨place + 5, rfl⟩
  · exact ⟨place + 4, rfl⟩

end RouteAtlas.Json
