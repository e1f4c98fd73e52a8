import Mathlib.Data.List.Induction
import Mathlib.Tactic.Convert
import RouteAtlas.Command.Answer
import RouteAtlas.Proofs.Text.Digit

/-!
# What answers select

A numeral denotes a number digit by digit (`IsNumeralOf`); its digits may be of any script. An
answer selects the possibility whose number it denotes, and nothing if it denotes no number or
another one (`selected?_of_readable`). But an answer of digits may be no numeral, since a sign among
them is no decimal digit, or too long for one. Such an answer is taken for a numeral first and
cannot be read then (`selected?_of_isUnreadable`).

Two tests decide on an answer, one behind the other, and they are of different kinds. The first one
asks each character whether it is a digit of any kind, small digits in superscript included; the
second one reads the decimal digits from the front and compares how many there are. Where the first
one passes an answer, the second one finds what it expects if and only if all digits are decimal.
-/

namespace RouteAtlas.Command

open Text (decimalDigit? valueInBase)

/-! ## Numerals -/

/-- A text is a decimal numeral of a number. -/
inductive IsNumeralOf : Text → Nat → Prop
  | digit {c : Char} {d : Nat} (h : decimalDigit? c = some d) : IsNumeralOf [c] d
  | more {s : Text} {n : Nat} {c : Char} {d : Nat} (hs : IsNumeralOf s n)
    (h : decimalDigit? c = some d) : IsNumeralOf (s ++ [c]) (10 * n + d)

/-- All characters are decimal digits. -/
def AreDecimal (s : Text) : Prop := ∀ c ∈ s, (decimalDigit? c).isSome = true

variable {s : Text} {c : Char} {n d : Nat}

theorem leadingDigits_cons (h : decimalDigit? c = some d) (rest : Text) :
    leadingDigits (c :: rest) = d :: leadingDigits rest := by
  rw [leadingDigits, h]

theorem leadingDigits_append (hs : AreDecimal s) (rest : Text) :
    leadingDigits (s ++ rest) = leadingDigits s ++ leadingDigits rest := by
  induction s with
  | nil => rfl
  | cons c s ih =>
    obtain ⟨hc, hs⟩ := List.forall_mem_cons.mp hs
    obtain ⟨d, hd⟩ := Option.isSome_iff_exists.mp hc
    rw [List.cons_append, leadingDigits_cons hd, leadingDigits_cons hd, ih hs, List.cons_append]

/-- No more digits are read than there are characters. -/
theorem length_leadingDigits_le (s : Text) : (leadingDigits s).length ≤ s.length := by
  induction s with
  | nil => exact Nat.le_refl _
  | cons c s ih =>
    rw [leadingDigits]
    split
    · rw [List.length_cons, List.length_cons]
      omega
    · exact Nat.zero_le _

/-- All characters have a value, or some of them is met that has none. -/
theorem length_leadingDigits_eq_iff : (leadingDigits s).length = s.length ↔ AreDecimal s := by
  induction s with
  | nil => exact iff_of_true rfl fun _ h => by cases h
  | cons c s ih =>
    rw [AreDecimal, List.forall_mem_cons]
    cases hc : decimalDigit? c with
    | some d =>
      rw [leadingDigits_cons hc, List.length_cons, List.length_cons, Nat.succ_inj, ih]
      exact ⟨fun h => ⟨rfl, h⟩, fun h => h.2⟩
    | none =>
      have hnil : leadingDigits (c :: s) = [] := by rw [leadingDigits, hc]
      rw [hnil]
      exact iff_of_false (by simp) (by simp)

namespace IsNumeralOf

theorem ne_nil (h : IsNumeralOf s n) : s ≠ [] := by
  cases h with
  | digit => exact List.cons_ne_nil _ _
  | more => exact List.concat_ne_nil _ _

/-- All of its characters are decimal digits. -/
theorem areDecimal (h : IsNumeralOf s n) : AreDecimal s := by
  induction h with
  | digit h => exact List.forall_mem_singleton.mpr (Option.isSome_of_eq_some h)
  | more _ h ih =>
    rw [AreDecimal, List.forall_mem_append, List.forall_mem_singleton]
    exact ⟨ih, Option.isSome_of_eq_some h⟩

/-- The number that a numeral denotes is the one that its digits spell. -/
theorem value_eq (h : IsNumeralOf s n) : valueInBase 10 (leadingDigits s) = n := by
  induction h with
  | digit h =>
    rw [leadingDigits_cons h]
    simp [leadingDigits, valueInBase]
  | @more s n c d hs h ih =>
    rw [leadingDigits_append hs.areDecimal, leadingDigits_cons h, leadingDigits, valueInBase,
      List.foldl_append, List.foldl_cons, List.foldl_nil]
    rw [valueInBase] at ih
    rw [ih]
    omega

/-- Decimal digits make a numeral. -/
theorem of_areDecimal (hs : s ≠ []) (h : AreDecimal s) :
    IsNumeralOf s (valueInBase 10 (leadingDigits s)) := by
  induction s using List.reverseRecOn with
  | nil => exact absurd rfl hs
  | append_singleton s c ih =>
    obtain ⟨hs, hc⟩ := List.forall_mem_append.mp h
    obtain ⟨d, hd⟩ := Option.isSome_iff_exists.mp (hc c (List.mem_singleton_self c))
    by_cases hnil : s = []
    · rw [hnil, List.nil_append, leadingDigits_cons hd]
      convert IsNumeralOf.digit hd
      simp [leadingDigits, valueInBase]
    · convert IsNumeralOf.more (ih hnil hs) hd
      rw [leadingDigits_append hs, leadingDigits_cons hd, leadingDigits, valueInBase,
        List.foldl_append, List.foldl_cons, List.foldl_nil, valueInBase]
      omega

end IsNumeralOf

/-! ## Answers -/

/-- An answer, without blanks around it, is made of digits that cannot be read as a numeral: one of
them has no value, or there are too many. -/
structure IsUnreadable (plain : Text) : Prop where
  ne_nil : plain ≠ []
  digits : ∀ c ∈ plain, Text.isDigit c = true
  fault : (∃ c ∈ plain, decimalDigit? c = none) ∨ Text.numeralDigits < plain.length

variable {α : Type} {possibilities : List α} {answer : Text}

/-- Characters are not all decimal digits if one of them is not. -/
theorem not_areDecimal_iff : ¬ AreDecimal s ↔ ∃ c ∈ s, decimalDigit? c = none := by
  simp [AreDecimal]

/-- An answer is taken for a numeral if it is made of digits. -/
theorem isNoNumeral_eq_false_iff {plain : Text} :
    (plain.isEmpty || !plain.all Text.isDigit) = false ↔
      plain ≠ [] ∧ ∀ c ∈ plain, Text.isDigit c = true := by
  rw [Bool.or_eq_false_iff, Bool.not_eq_false', List.all_eq_true, List.isEmpty_eq_false_iff]

/-- What cannot be read does not select anything. -/
theorem selected?_of_isUnreadable (h : IsUnreadable (Text.trim answer)) (possibilities : List α) :
    ∃ fault, selected? possibilities answer = .error fault := by
  unfold selected?
  dsimp only
  rw [isNoNumeral_eq_false_iff.mpr ⟨h.ne_nil, h.digits⟩, if_neg Bool.false_ne_true]
  split
  next => exact ⟨_, rfl⟩
  next hshort =>
    have hnumber : (leadingDigits (Text.trim answer)).length < (Text.trim answer).length := by
      refine Nat.lt_of_le_of_ne (length_leadingDigits_le _) fun heq => ?_
      rcases h.fault with hsign | hlong
      · exact not_areDecimal_iff.mpr hsign (length_leadingDigits_eq_iff.mp heq)
      · omega
    rw [if_pos hnumber]
    exact ⟨_, rfl⟩

/-- **What can be read selects the possibility whose number it denotes**, counted from 1. -/
theorem selected?_of_readable (h : ¬ IsUnreadable (Text.trim answer)) (possibilities : List α) :
    ∃ chosen, selected? possibilities answer = .ok chosen ∧
      ∀ a, chosen = some a ↔ ∃ k, 1 ≤ k ∧ k ≤ possibilities.length ∧
        IsNumeralOf (Text.trim answer) k ∧ possibilities[k - 1]? = some a := by
  generalize hplain : Text.trim answer = plain at h
  unfold selected?
  rw [hplain]
  dsimp only
  by_cases hguard : plain ≠ [] ∧ ∀ c ∈ plain, Text.isDigit c = true
  · obtain ⟨hne, hdigits⟩ := hguard
    have hdecimal : AreDecimal plain := by
      by_contra hsign
      exact h ⟨hne, hdigits, .inl (not_areDecimal_iff.mp hsign)⟩
    have hlength := length_leadingDigits_eq_iff.mpr hdecimal
    -- It is neither too long nor has a sign in it, for then it could not be read.
    have hshort : ¬ Text.numeralDigits < (leadingDigits plain).length := by
      intro hlong
      exact h ⟨hne, hdigits, .inr (hlength ▸ hlong)⟩
    have hnumeral := IsNumeralOf.of_areDecimal hne hdecimal
    rw [isNoNumeral_eq_false_iff.mpr ⟨hne, hdigits⟩, if_neg Bool.false_ne_true, if_neg hshort,
      if_neg (by omega)]
    cases hvalue : valueInBase 10 (leadingDigits plain) with
    | zero =>
      refine ⟨none, rfl, fun a => iff_of_false (by simp) ?_⟩
      rintro ⟨k, hk, -, hdenotes, -⟩
      rw [hdenotes.value_eq] at hvalue
      omega
    | succ n =>
      refine ⟨possibilities[n]?, rfl, fun a => ⟨fun ha => ?_, ?_⟩⟩
      · obtain ⟨hn, -⟩ := List.getElem?_eq_some_iff.mp ha
        exact ⟨n + 1, by omega, hn, hvalue ▸ hnumeral, ha⟩
      · rintro ⟨k, -, -, hdenotes, ha⟩
        rw [hdenotes.value_eq] at hvalue
        rw [hvalue] at ha
        exact ha
  · -- Otherwise the first test does not let it pass, and it is no numeral.
    have hstop : (plain.isEmpty || !plain.all Text.isDigit) = true := by
      by_contra hpass
      exact hguard (isNoNumeral_eq_false_iff.mp (Bool.eq_false_iff.mpr hpass))
    rw [hstop, if_pos rfl]
    refine ⟨none, rfl, fun a => iff_of_false (by simp) ?_⟩
    rintro ⟨k, -, -, hdenotes, -⟩
    refine hguard ⟨hdenotes.ne_nil, fun c hc => ?_⟩
    exact Text.isDigit_of_decimalDigit? (hdenotes.areDecimal c hc)

end RouteAtlas.Command
