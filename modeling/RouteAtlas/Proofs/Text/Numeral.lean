import RouteAtlas.Text.Basic
import Mathlib.Data.List.Basic

/-!
# Numerals read back

The decimal numeral of a number consists of digits, starts with a zero only if it is the
numeral of zero, and spells the number: `decimalValue_ofNat`. A reader that takes digits as long as
there are any takes the numeral and leaves what follows it (`takeWhile_append_eq_left`).
-/

namespace RouteAtlas.Text

/-- What is taken as long as it is of one kind ends where another kind begins. -/
theorem takeWhile_append_eq_left {p : Char → Bool} {s rest : Text} (hs : ∀ c ∈ s, p c = true)
    (hrest : ∀ c ∈ rest.head?, p c = false) : (s ++ rest).takeWhile p = s := by
  have hnil : rest.takeWhile p = [] := by
    cases rest with
    | nil => rfl
    | cons c tail => rw [List.takeWhile_cons, hrest c rfl]; rfl
  rw [List.takeWhile_append_of_pos hs, hnil, List.append_nil]

theorem isAsciiDigit_of_mem_ofNat {n : Nat} {c : Char} (h : c ∈ ofNat n) :
    isAsciiDigit c = true := by
  have hdigit := Nat.isDigit_of_mem_toDigits (b := 10) (by decide) (by decide) h
  simpa [isAsciiDigit, Char.isDigit, Char.le_def] using hdigit

theorem ofNat_ne_nil (n : Nat) : ofNat n ≠ [] := Nat.toDigits_ne_nil

/-- A numeral spells its number. -/
theorem decimalValue_ofNat (n : Nat) : decimalValue (ofNat n) = n := by
  have hvalue := Nat.ofDigitChars_toDigits (b := 10) (n := n) (by decide) (by decide)
  rw [Nat.ofDigitChars_eq_foldl] at hvalue
  rw [decimalValue, valueInBase, List.foldl_map, ofNat]
  simpa only [Nat.mul_comm 10] using hvalue

/-- Different numbers have different numerals. -/
theorem ofNat_injective : Function.Injective ofNat := by
  intro m n h
  rw [← decimalValue_ofNat m, h, decimalValue_ofNat]

theorem ofNat_ne_minus_cons (m : Nat) (rest : Text) : ofNat m ≠ '-' :: rest := by
  intro h
  have hminus : '-' ∈ ofNat m := h ▸ List.mem_cons_self
  exact absurd (isAsciiDigit_of_mem_ofNat hminus) (by decide)

theorem ofInt_injective : Function.Injective ofInt := by
  intro m n h
  cases m with
  | ofNat m =>
    cases n with
    | ofNat n => exact congrArg Int.ofNat (ofNat_injective h)
    | negSucc n => exact absurd h (ofNat_ne_minus_cons m _)
  | negSucc m =>
    cases n with
    | ofNat n => exact absurd h.symm (ofNat_ne_minus_cons n _)
    | negSucc n => exact congrArg Int.negSucc (Nat.succ.inj (ofNat_injective (List.cons.inj h).2))

/-- The numeral of an integer consists of digits, behind a minus sign if there is one. -/
theorem eq_or_isAsciiDigit_of_mem_ofInt {n : Int} {c : Char} (h : c ∈ ofInt n) :
    c = '-' ∨ isAsciiDigit c = true := by
  cases n with
  | ofNat n => exact .inr (isAsciiDigit_of_mem_ofNat h)
  | negSucc n => exact (List.mem_cons.mp h).imp_right isAsciiDigit_of_mem_ofNat

/-- Only the numeral of zero has a zero in front. -/
theorem head?_ofNat_eq_zero_iff {n : Nat} : (ofNat n).head? = some '0' ↔ n = 0 := by
  refine ⟨fun h => ?_, fun h => by rw [h]; rfl⟩
  induction n using Nat.strongRecOn with
  | ind n ih =>
    rcases Nat.lt_or_ge n 10 with hlt | hge
    · rw [ofNat, Nat.toDigits_of_lt_base hlt, List.head?_cons, Option.some.injEq] at h
      exact Nat.digitChar_eq_zero.mp h
    · rw [ofNat, Nat.toDigits_of_base_le (by decide) hge,
        List.head?_append_of_ne_nil _ Nat.toDigits_ne_nil] at h
      have hzero : n / 10 = 0 := ih (n / 10) (by omega) h
      omega

end RouteAtlas.Text
