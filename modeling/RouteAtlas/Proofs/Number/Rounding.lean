import Mathlib.Algebra.Order.Field.Power
import Mathlib.Data.Rat.Cast.Order
import Mathlib.Tactic.FieldSimp
import Mathlib.Tactic.Linarith
import Mathlib.Tactic.NormNum
import Mathlib.Tactic.Positivity
import Mathlib.Tactic.Ring
import RouteAtlas.Number.Binary64

/-!
# How far rounding moves a number

The arithmetic of scores and thresholds is exact arithmetic on quotients with one
rounding after each step. This file bounds what that rounding does: on a nonnegative
number it is off by at most half a unit of the last place kept, that is by a factor of
at most `1 ± 2 ^ -53`, or by `2 ^ -1075` where the places have run out
(`abs_rounded_sub_le`).

From it follows the one fact that a cutoff by ratio rests on: a proper ratio of a
positive whole number, rounded, is still less than that number
(`rounded_natCast_mul_lt`). The largest ratio below 1 is `1 - 2 ^ -53`, and rounding
moves its product up by less than that takes away.

Rounding never passes a number that it can leave as it is, from either side: one of less
than `2 ^ 53` units, whatever the units are (`keepsSides_rounded`). Points are whole numbers,
and what keeps a tier of scores within its bounds is that these are such numbers up to
`2 ^ 53` (`rounded_le_natCast`, `natCast_le_rounded`). Nor does it ever turn an order around
(`rounded_mono`), so that what is more alike is worth no fewer points.
-/

namespace RouteAtlas

/-! ## Moving the binary point -/

/-- Scaling down divides by a power of 2, as a change of numerator or denominator. -/
theorem scaleDown_quotient (num den : ℕ) (e : ℤ) :
    ((scaleDown num den e).1 : ℚ) / (scaleDown num den e).2 = num / den / 2 ^ e := by
  cases e with
  | ofNat n =>
    rw [scaleDown, Int.ofNat_eq_natCast, zpow_natCast, div_div]
    push_cast [Nat.pow_eq]
    rfl
  | negSucc n =>
    rw [scaleDown, zpow_negSucc, div_inv_eq_mul, div_mul_eq_mul_div]
    push_cast [Nat.pow_eq]
    rfl

theorem scaleUp_quotient (n : ℕ) (e : ℤ) :
    ((scaleUp n e).1 : ℚ) / (scaleUp n e).2 = n * 2 ^ e := by
  cases e with
  | ofNat k =>
    rw [scaleUp, Int.ofNat_eq_natCast, zpow_natCast]
    push_cast [Nat.pow_eq]
    rw [div_one]
  | negSucc k =>
    rw [scaleUp, zpow_negSucc, ← div_eq_mul_inv]
    push_cast [Nat.pow_eq]
    rfl

theorem scaleDown_den_pos (num : ℕ) {den : ℕ} (hden : 0 < den) (e : ℤ) :
    0 < (scaleDown num den e).2 := by
  cases e with
  | ofNat n => exact Nat.mul_pos hden (Nat.two_pow_pos n)
  | negSucc n => exact hden

/-- The value of a number is its significand times a power of 2. -/
theorem toRat_eq (x : Scaled) : x.toRat = x.significand * 2 ^ x.exponent := by
  change mkRat (scaleUp x.significand x.exponent).1 (scaleUp x.significand x.exponent).2 = _
  rw [Rat.mkRat_eq_div, Int.cast_natCast, scaleUp_quotient]

/-! ## The leading place -/

/-- The leading place is the binary logarithm of the quotient, cut down. -/
theorem leadingPlace_spec {num den : ℕ} (hnum : 0 < num) (hden : 0 < den) :
    (2 : ℚ) ^ leadingPlace num den ≤ (num : ℚ) / den ∧
      (num : ℚ) / den < 2 ^ (leadingPlace num den + 1) := by
  have hd : (0 : ℚ) < den := by exact_mod_cast hden
  have hnlow : (2 : ℚ) ^ num.log2 ≤ num := by exact_mod_cast Nat.log2_self_le hnum.ne'
  have hnhigh : (num : ℚ) < 2 ^ (num.log2 + 1) := by exact_mod_cast Nat.lt_log2_self
  have hdlow : (2 : ℚ) ^ den.log2 ≤ den := by exact_mod_cast Nat.log2_self_le hden.ne'
  have hdhigh : (den : ℚ) < 2 ^ (den.log2 + 1) := by exact_mod_cast Nat.lt_log2_self
  -- the guess from the two logarithms is right or one too high
  have hlow : (2 : ℚ) ^ ((num.log2 : ℤ) - den.log2 - 1) ≤ num / den := by
    rw [le_div_iff₀ hd]
    calc (2 : ℚ) ^ ((num.log2 : ℤ) - den.log2 - 1) * den
        ≤ 2 ^ ((num.log2 : ℤ) - den.log2 - 1) * 2 ^ ((den.log2 : ℤ) + 1) := by
          gcongr
          exact_mod_cast hdhigh.le
      _ = 2 ^ num.log2 := by
          rw [← zpow_add₀ two_ne_zero, ← zpow_natCast]
          congr 1
          ring
      _ ≤ num := hnlow
  have hhigh : (num : ℚ) / den < 2 ^ ((num.log2 : ℤ) - den.log2 + 1) := by
    rw [div_lt_iff₀ hd]
    calc (num : ℚ) < 2 ^ (num.log2 + 1) := hnhigh
      _ = 2 ^ ((num.log2 : ℤ) - den.log2 + 1) * 2 ^ (den.log2 : ℤ) := by
          rw [← zpow_add₀ two_ne_zero, ← zpow_natCast]
          congr 1
          push_cast
          ring
      _ ≤ 2 ^ ((num.log2 : ℤ) - den.log2 + 1) * den := by
          gcongr
          rw [zpow_natCast]
          exact hdlow
  have hbelow : (scaleDown num den (num.log2 - den.log2)).1
        < (scaleDown num den (num.log2 - den.log2)).2 ↔
      (num : ℚ) / den < 2 ^ ((num.log2 : ℤ) - den.log2) := by
    have hpos : (0 : ℚ) < (scaleDown num den (num.log2 - den.log2)).2 := by
      exact_mod_cast scaleDown_den_pos _ hden _
    rw [← Nat.cast_lt (α := ℚ), ← div_lt_one hpos, scaleDown_quotient,
      div_lt_one (zpow_pos two_pos _)]
  simp only [leadingPlace]
  split
  next hlt => exact ⟨hlow, by simpa using hbelow.mp hlt⟩
  next hlt => exact ⟨not_lt.mp fun h => hlt (hbelow.mpr h), hhigh⟩

/-! ## One rounding -/

/-- Rounding a quotient to a whole number moves it by at most a half. -/
theorem abs_roundDiv_sub_le (num : ℕ) {den : ℕ} (hden : 0 < den) :
    |(roundDiv num den : ℚ) - num / den| ≤ 1 / 2 := by
  have hd : (0 : ℚ) < den := by exact_mod_cast hden
  -- A quotient is its whole part and what is left over.
  have hsplit : (num : ℚ) / den = (num / den : ℕ) + (num % den : ℕ) / den := by
    rw [div_eq_iff hd.ne', add_mul, div_mul_cancel₀ _ hd.ne']
    exact_mod_cast (Nat.div_add_mod' num den).symm
  have hrem : (0 : ℚ) ≤ (num % den : ℕ) / den := by positivity
  have hup : den ≤ 2 * (num % den) → (1 : ℚ) / 2 ≤ (num % den : ℕ) / den := by
    intro h
    rw [div_le_div_iff₀ two_pos hd]
    exact_mod_cast (by omega : 1 * den ≤ num % den * 2)
  have hdown : 2 * (num % den) ≤ den → ((num % den : ℕ) : ℚ) / den ≤ 1 / 2 := by
    intro h
    rw [div_le_div_iff₀ hd two_pos]
    exact_mod_cast (by omega : num % den * 2 ≤ 1 * den)
  have hone : ((num % den : ℕ) : ℚ) / den ≤ 1 := by
    rw [div_le_one hd]
    exact_mod_cast (Nat.mod_lt num hden).le
  rw [hsplit, abs_le]
  simp only [roundDiv]
  split
  next h => constructor <;> [linarith [hdown h.le]; linarith]
  next h =>
    split
    next h' =>
      push_cast
      constructor <;> linarith [hup h'.le]
    next h' =>
      have hlow := hdown (by omega)
      have hhigh := hup (by omega)
      rcases Nat.mod_two_eq_zero_or_one (num / den) with heven | hodd
      · rw [heven]
        push_cast
        constructor <;> linarith
      · rw [hodd]
        push_cast
        constructor <;> linarith

/-- The place to which a quotient is rounded. -/
def lastPlace (num den : ℕ) : ℤ := max (leadingPlace num den - 52) leastExponent

/-- The number of units of the last place is less than `2 ^ 53`, before it is rounded. -/
theorem quotient_lt_two_pow {num den : ℕ} (hnum : 0 < num) (hden : 0 < den) :
    (num : ℚ) / den / 2 ^ lastPlace num den < 2 ^ 53 := by
  rw [div_lt_iff₀ (zpow_pos two_pos _)]
  calc (num : ℚ) / den < 2 ^ (leadingPlace num den + 1) := (leadingPlace_spec hnum hden).2
    _ ≤ 2 ^ (53 + lastPlace num den) :=
        zpow_le_zpow_right₀ one_le_two (by rw [lastPlace]; omega)
    _ = 2 ^ 53 * 2 ^ lastPlace num den := zpow_add₀ two_ne_zero _ _

/-- A rounded number of units of the last place is at most `2 ^ 53`, and `2 ^ 53` of them carry
into a new leading digit. -/
theorem toRat_nearestScaled {num den : ℕ} (hnum : 0 < num) (hden : 0 < den) :
    ∃ n d : ℕ, 0 < d ∧ (n : ℚ) / d = num / den / 2 ^ lastPlace num den ∧
      (nearestScaled num den).toRat = roundDiv n d * 2 ^ lastPlace num den := by
  have hquot := scaleDown_quotient num den (lastPlace num den)
  have hpos := scaleDown_den_pos num hden (lastPlace num den)
  have hlast : max (leadingPlace num den - 52) leastExponent = lastPlace num den := rfl
  refine ⟨_, _, hpos, hquot, ?_⟩
  rw [toRat_eq]
  simp only [nearestScaled, if_neg hnum.ne', hlast]
  split
  next => rfl
  next hcarry =>
    have hle : roundDiv (scaleDown num den (lastPlace num den)).1
        (scaleDown num den (lastPlace num den)).2 < 2 ^ 53 + 1 := by
      have hhalf := (abs_le.mp (abs_roundDiv_sub_le
        (scaleDown num den (lastPlace num den)).1 hpos)).2
      have hquotient := quotient_lt_two_pow hnum hden
      rw [hquot] at hhalf
      have : ((roundDiv (scaleDown num den (lastPlace num den)).1
        (scaleDown num den (lastPlace num den)).2 : ℕ) : ℚ) < (2 ^ 53 + 1 : ℕ) := by
        push_cast
        linarith
      exact_mod_cast this
    have heq : roundDiv (scaleDown num den (lastPlace num den)).1
        (scaleDown num den (lastPlace num den)).2 = 2 ^ 53 :=
      le_antisymm (Nat.lt_succ_iff.mp hle) (not_lt.mp hcarry)
    rw [heq, zpow_add_one₀ two_ne_zero]
    push_cast [Nat.pow_eq]
    ring

/-- **The error of one rounding** is at most half a unit of the last place. -/
theorem abs_nearestScaled_sub_le {num den : ℕ} (hnum : 0 < num) (hden : 0 < den) :
    |(nearestScaled num den).toRat - num / den| ≤ 2 ^ lastPlace num den / 2 := by
  obtain ⟨n, d, hd, hquot, heq⟩ := toRat_nearestScaled hnum hden
  have hunit : (0 : ℚ) < 2 ^ lastPlace num den := zpow_pos two_pos _
  have hval : (num : ℚ) / den = n / d * 2 ^ lastPlace num den := by
    rw [hquot, div_mul_cancel₀ _ hunit.ne']
  rw [heq, hval, ← sub_mul, abs_mul, abs_of_pos hunit]
  calc |(roundDiv n d : ℚ) - n / d| * 2 ^ lastPlace num den
      ≤ 1 / 2 * 2 ^ lastPlace num den := by
        gcongr
        exact abs_roundDiv_sub_le _ hd
    _ = 2 ^ lastPlace num den / 2 := by ring

/-- A positive number is the quotient of its numerator and its denominator. -/
theorem toNat_num_div_den {q : ℚ} (hq : 0 < q) :
    0 < q.num.toNat ∧ ((q.num.toNat : ℕ) : ℚ) / q.den = q := by
  have hpos := Rat.num_pos.mpr hq
  refine ⟨by omega, ?_⟩
  rw [show ((q.num.toNat : ℕ) : ℚ) = q.num by exact_mod_cast Int.toNat_of_nonneg hpos.le]
  exact Rat.num_div_den q

theorem rounded_of_nonpos {q : ℚ} (hq : q ≤ 0) : rounded q = 0 := by
  have hnum : q.num.toNat = 0 := by
    have := Rat.num_nonpos.mpr hq
    omega
  rw [rounded, toRat_eq, nearestScaled, if_pos hnum, Scaled.zero, Nat.cast_zero, zero_mul]

/-- A nonnegative number is moved by a factor of at most `1 ± 2 ^ -53`, or by `2 ^ -1075` when it
is so small that the places have run out. -/
theorem abs_rounded_sub_le {q : ℚ} (hq : 0 ≤ q) :
    |rounded q - q| ≤ max (q / 2 ^ 53) (2 ^ (-1075 : ℤ)) := by
  rcases hq.eq_or_lt with rfl | hpos
  · rw [rounded_of_nonpos le_rfl, sub_self, abs_zero]
    exact le_max_of_le_right (zpow_nonneg zero_le_two _)
  · obtain ⟨hnum, hval⟩ := toNat_num_div_den hpos
    have herr := abs_nearestScaled_sub_le hnum q.den_pos
    rw [hval] at herr
    refine herr.trans ?_
    rcases le_total (leadingPlace q.num.toNat q.den - 52) leastExponent with hle | hle
    · rw [lastPlace, max_eq_right hle]
      refine le_max_of_le_right (le_of_eq ?_)
      rw [leastExponent, show (-1074 : ℤ) = -1075 + 1 by norm_num, zpow_add_one₀ two_ne_zero]
      ring
    · rw [lastPlace, max_eq_left hle]
      refine le_max_of_le_left ?_
      have hlead := (leadingPlace_spec hnum q.den_pos).1
      rw [hval] at hlead
      calc (2 : ℚ) ^ (leadingPlace q.num.toNat q.den - 52) / 2
          = 2 ^ leadingPlace q.num.toNat q.den / 2 ^ 53 := by
            rw [zpow_sub₀ two_ne_zero, div_div]
            norm_num
        _ ≤ q / 2 ^ 53 := by gcongr

/-! ## Whole numbers -/

/-- A quotient that is at most a whole number is not rounded past it. -/
theorem roundDiv_le {num den k : ℕ} (hden : 0 < den) (h : num ≤ k * den) :
    roundDiv num den ≤ k := by
  have hquotient : num / den ≤ k := Nat.div_le_of_le_mul (by rwa [Nat.mul_comm] at h)
  rcases hquotient.lt_or_eq with hlt | heq
  · simp only [roundDiv]
    split
    next => exact hquotient
    next =>
      split
      next => exact hlt
      next => omega
  · -- nothing is left over, so the quotient stays what it is
    have hsplit := Nat.div_add_mod num den
    rw [heq, Nat.mul_comm] at hsplit
    have hrest : num % den = 0 := by omega
    rw [roundDiv, hrest, heq]
    simp [hden]

/-- A quotient that is at least a whole number is not rounded below it. -/
theorem le_roundDiv {num den k : ℕ} (hden : 0 < den) (h : k * den ≤ num) :
    k ≤ roundDiv num den := by
  have hquotient : k ≤ num / den := (Nat.le_div_iff_mul_le hden).mpr h
  simp only [roundDiv]
  split
  next => exact hquotient
  next => split <;> omega

/-! ## Numbers that are not passed -/

/-- What is on one side of a number stays there when it is rounded. -/
structure KeepsSides (round : ℚ → ℚ) (x : ℚ) : Prop where
  below : ∀ {q}, q ≤ x → round q ≤ x
  above : ∀ {q}, x ≤ q → x ≤ round q

/-- A positive number is rounded to whole units of some place, never past a number of them on
either side. Units above the least are only used for what has `2 ^ 52` of them. -/
theorem exists_place {q : ℚ} (hq : 0 < q) :
    ∃ place : ℤ, (leastExponent < place → (2 : ℚ) ^ 52 * 2 ^ place ≤ q) ∧
      ∀ units : ℕ, (units * 2 ^ place ≤ q → units * 2 ^ place ≤ rounded q) ∧
        (q ≤ units * 2 ^ place → rounded q ≤ units * 2 ^ place) := by
  obtain ⟨hnum, hval⟩ := toNat_num_div_den hq
  have hlead := (leadingPlace_spec hnum q.den_pos).1
  obtain ⟨n, d, hd, hquot, heq⟩ := toRat_nearestScaled hnum q.den_pos
  rw [hval] at hlead hquot
  refine ⟨lastPlace q.num.toNat q.den, fun hplace => ?_, fun units => ?_⟩
  · have hlast : lastPlace q.num.toNat q.den = leadingPlace q.num.toNat q.den - 52 := by
      rw [lastPlace] at hplace ⊢
      omega
    rw [hlast, ← zpow_natCast, ← zpow_add₀ two_ne_zero]
    refine le_trans (le_of_eq ?_) hlead
    congr 1
    push_cast
    ring
  · have hunit : (0 : ℚ) < 2 ^ lastPlace q.num.toNat q.den := zpow_pos two_pos _
    have hd' : (0 : ℚ) < d := by exact_mod_cast hd
    rw [rounded, heq, mul_le_mul_iff_left₀ hunit, mul_le_mul_iff_left₀ hunit, ← le_div_iff₀ hunit,
      ← div_le_iff₀ hunit, ← hquot, le_div_iff₀ hd', div_le_iff₀ hd']
    exact_mod_cast And.intro (le_roundDiv hd) (roundDiv_le hd)

theorem rounded_nonneg (q : ℚ) : 0 ≤ rounded q := by
  rw [rounded, toRat_eq]
  positivity

/-- A number of units is a number of smaller units. -/
theorem exists_units_eq (k : ℕ) {e place : ℤ} (hplace : place ≤ e) :
    ∃ units : ℕ, (k : ℚ) * 2 ^ e = units * 2 ^ place := by
  obtain ⟨m, rfl⟩ : ∃ m : ℕ, e = place + m := ⟨(e - place).toNat, by omega⟩
  refine ⟨k * 2 ^ m, ?_⟩
  rw [zpow_add₀ two_ne_zero, zpow_natCast]
  push_cast
  ring

/-- **Rounding does not pass a number of less than `2 ^ 53` units**, from either side. -/
theorem keepsSides_rounded {k : ℕ} {e : ℤ} (hk : k < 2 ^ 53) (he : leastExponent ≤ e) :
    KeepsSides rounded (k * 2 ^ e) := by
  have hx : (0 : ℚ) ≤ k * 2 ^ e := by positivity
  have hfew : (k : ℚ) * 2 ^ e < 2 ^ 53 * 2 ^ e := by
    gcongr
    exact_mod_cast hk
  -- larger units are only used for larger numbers
  have hlarge : ∀ place, e < place → (k : ℚ) * 2 ^ e < 2 ^ 52 * 2 ^ place := by
    intro place hplace
    have hnext : (2 : ℚ) ^ (e + 1) ≤ 2 ^ place := zpow_le_zpow_right₀ one_le_two hplace
    rw [zpow_add_one₀ two_ne_zero] at hnext
    linarith
  constructor
  · intro q h
    rcases le_or_gt q 0 with hq | hq
    · rw [rounded_of_nonpos hq]
      exact hx
    obtain ⟨place, hused, hround⟩ := exists_place hq
    have hplace : place ≤ e := by
      by_contra hlt
      rw [not_le] at hlt
      exact absurd (hlarge place hlt) (not_lt.mpr ((hused (he.trans_lt hlt)).trans h))
    obtain ⟨units, hunits⟩ := exists_units_eq k hplace
    rw [hunits] at h ⊢
    exact (hround units).2 h
  · intro q h
    rcases le_or_gt q 0 with hq | hq
    · exact (h.trans hq).trans (rounded_nonneg q)
    obtain ⟨place, hused, hround⟩ := exists_place hq
    rcases le_or_gt place e with hplace | hplace
    · obtain ⟨units, hunits⟩ := exists_units_eq k hplace
      rw [hunits] at h ⊢
      exact (hround units).1 h
    · have hmany := (hround (2 ^ 52)).1
      push_cast at hmany
      exact (hlarge place hplace).le.trans (hmany (hused (he.trans_lt hplace)))

/-- **Rounding does not pass a whole number** less than `2 ^ 53`. -/
theorem keepsSides_rounded_natCast {k : ℕ} (hk : k < 2 ^ 53) : KeepsSides rounded k := by
  have hunits := keepsSides_rounded (e := 0) hk (by decide)
  rwa [zpow_zero, mul_one] at hunits

theorem rounded_le_natCast {q : ℚ} {k : ℕ} (hk : k < 2 ^ 53) (h : q ≤ k) : rounded q ≤ k :=
  (keepsSides_rounded_natCast hk).below h

theorem natCast_le_rounded {q : ℚ} {k : ℕ} (hk : k < 2 ^ 53) (h : (k : ℚ) ≤ q) :
    (k : ℚ) ≤ rounded q :=
  (keepsSides_rounded_natCast hk).above h

/-! ## Order -/

/-- A smaller quotient is not rounded to a larger number. -/
theorem roundDiv_mono {num den num' den' : ℕ} (hden : 0 < den) (hden' : 0 < den')
    (h : num * den' ≤ num' * den) : roundDiv num den ≤ roundDiv num' den' := by
  have hquotient : num / den ≤ num' / den' := by
    rw [Nat.le_div_iff_mul_le hden']
    refine Nat.le_of_mul_le_mul_right ?_ hden
    calc num / den * den' * den = num / den * den * den' := Nat.mul_right_comm _ _ _
      _ ≤ num * den' := Nat.mul_le_mul_right _ (Nat.div_mul_le_self num den)
      _ ≤ num' * den := h
  rcases hquotient.lt_or_eq with hlt | heq
  · -- at most one is added to the smaller one, and nothing is taken from the larger one
    have hup : roundDiv num den ≤ num / den + 1 := by
      simp only [roundDiv]
      split
      next => omega
      next => split <;> omega
    have hdown : num' / den' ≤ roundDiv num' den' := by
      simp only [roundDiv]
      split
      next => exact le_rfl
      next => split <;> omega
    omega
  · -- the whole parts are the same, so that what is left over decides
    have hrest : num % den * den' ≤ num' % den' * den := by
      have hnum := Nat.div_add_mod' num den
      have hnum' := Nat.div_add_mod' num' den'
      rw [← heq] at hnum'
      have hsplit : num / den * den * den' + num % den * den' ≤
          num / den * den' * den + num' % den' * den := by
        rw [← Nat.add_mul, ← Nat.add_mul, hnum, hnum']
        exact h
      rw [Nat.mul_right_comm] at hsplit
      omega
    have htwice : 2 * (num % den) * den' ≤ den * (2 * (num' % den')) := by linarith
    have hmore : den < 2 * (num % den) → den' < 2 * (num' % den') := by
      intro hlt
      exact Nat.lt_of_mul_lt_mul_left
        ((Nat.mul_lt_mul_of_pos_right hlt hden').trans_le htwice)
    have hhalf : den ≤ 2 * (num % den) → den' ≤ 2 * (num' % den') := by
      intro hle
      exact Nat.le_of_mul_le_mul_left ((Nat.mul_le_mul_right den' hle).trans htwice) hden
    simp only [roundDiv]
    split_ifs <;> omega

/-- **Rounding keeps the order** of numbers, though not strictly. -/
theorem rounded_mono {q r : ℚ} (h : q ≤ r) : rounded q ≤ rounded r := by
  rcases le_or_gt q 0 with hq | hq
  · rw [rounded_of_nonpos hq]
    exact rounded_nonneg r
  obtain ⟨hqnum, hqval⟩ := toNat_num_div_den hq
  obtain ⟨hrnum, hrval⟩ := toNat_num_div_den (hq.trans_le h)
  obtain ⟨hqlow, hqhigh⟩ := leadingPlace_spec hqnum q.den_pos
  obtain ⟨hrlow, hrhigh⟩ := leadingPlace_spec hrnum r.den_pos
  rw [hqval] at hqlow hqhigh
  rw [hrval] at hrlow hrhigh
  have hlead : leadingPlace q.num.toNat q.den < leadingPlace r.num.toNat r.den + 1 :=
    (zpow_lt_zpow_iff_right₀ one_lt_two).mp (hqlow.trans_lt (h.trans_lt hrhigh))
  have hlast : lastPlace q.num.toNat q.den ≤ lastPlace r.num.toNat r.den := by
    rw [lastPlace, lastPlace]
    omega
  rcases hlast.lt_or_eq with hlt | heq
  · -- different places, so that a power of 2 lies between the numbers
    rw [lastPlace, lastPlace] at hlt
    have hpower : (2 : ℚ) ^ (leadingPlace q.num.toNat q.den + 1) ≤
        2 ^ leadingPlace r.num.toNat r.den := zpow_le_zpow_right₀ one_le_two (by omega)
    have hsides : KeepsSides rounded ((1 : ℕ) * 2 ^ leadingPlace r.num.toNat r.den) :=
      keepsSides_rounded (by norm_num) (by omega)
    rw [Nat.cast_one, one_mul] at hsides
    exact (hsides.below (hqhigh.le.trans hpower)).trans (hsides.above hrlow)
  · -- one place, so that the numbers of units are compared
    obtain ⟨n, d, hd, hquot, hround⟩ := toRat_nearestScaled hqnum q.den_pos
    obtain ⟨n', d', hd', hquot', hround'⟩ := toRat_nearestScaled hrnum r.den_pos
    rw [hqval] at hquot
    rw [hrval, ← heq] at hquot'
    rw [rounded, rounded, hround, hround', ← heq]
    have hunits : (n : ℚ) / d ≤ n' / d' := by
      rw [hquot, hquot']
      gcongr
    rw [div_le_div_iff₀ (by exact_mod_cast hd) (by exact_mod_cast hd')] at hunits
    gcongr
    exact roundDiv_mono hd hd' (by exact_mod_cast hunits)

/-! ## Proper ratios -/

/-- The largest number below 1 is `1 - 2 ^ -53`. -/
theorem Scaled.toRat_le_of_lt_one {x : Scaled} (h : x.toRat < 1) : x.toRat ≤ 1 - 1 / 2 ^ 53 := by
  rw [toRat_eq] at h ⊢
  have hsig : (x.significand : ℚ) ≤ 2 ^ 53 := by exact_mod_cast x.significand_lt.le
  rcases le_or_gt 0 x.exponent with hexp | hexp
  · -- a whole number below 1 is 0
    have hone : (1 : ℚ) ≤ 2 ^ x.exponent := one_le_zpow₀ one_le_two hexp
    have hzero : x.significand = 0 := by
      by_contra hne
      have hsig1 : (1 : ℚ) ≤ x.significand := by exact_mod_cast Nat.one_le_iff_ne_zero.mpr hne
      linarith [one_le_mul_of_one_le_of_one_le hsig1 hone]
    rw [hzero]
    norm_num
  · obtain ⟨k, hk⟩ : ∃ k : ℕ, x.exponent = -(k : ℤ) :=
      ⟨x.exponent.natAbs, by omega⟩
    rw [hk, zpow_neg, zpow_natCast, ← div_eq_mul_inv] at h ⊢
    have hpow : (0 : ℚ) < 2 ^ k := by positivity
    rcases le_or_gt k 53 with hsmall | hlarge
    · rw [div_lt_one hpow] at h
      have hnat : x.significand + 1 ≤ 2 ^ k := by exact_mod_cast h
      have hle : (x.significand : ℚ) + 1 ≤ 2 ^ k := by exact_mod_cast hnat
      calc (x.significand : ℚ) / 2 ^ k ≤ (2 ^ k - 1) / 2 ^ k := by
            gcongr
            linarith
        _ = 1 - 1 / 2 ^ k := by field_simp
        _ ≤ 1 - 1 / 2 ^ 53 := by
            gcongr
            exact one_le_two
    · calc (x.significand : ℚ) / 2 ^ k ≤ 2 ^ 53 / 2 ^ 54 := by
            gcongr
            · exact one_le_two
            · exact hlarge
        _ ≤ 1 - 1 / 2 ^ 53 := by norm_num

/-- Behind a number of `2 ^ 52` units and more, the next one is one unit larger at least. -/
theorem Scaled.add_unit_le {x : Scaled} {k : ℕ} {e : ℤ} (hk : 2 ^ 52 ≤ k)
    (h : (k : ℚ) * 2 ^ e < x.toRat) : ((k + 1 : ℕ) : ℚ) * 2 ^ e ≤ x.toRat := by
  rw [toRat_eq] at h ⊢
  have hunit : (0 : ℚ) < 2 ^ e := zpow_pos two_pos e
  rcases le_or_gt e x.exponent with hplace | hplace
  · obtain ⟨units, hunits⟩ := exists_units_eq x.significand hplace
    rw [hunits, mul_lt_mul_iff_left₀ hunit] at h
    rw [hunits, mul_le_mul_iff_left₀ hunit]
    exact_mod_cast h
  · -- smaller units are only used for smaller numbers
    have hnext : (2 : ℚ) ^ (x.exponent + 1) ≤ 2 ^ e := zpow_le_zpow_right₀ one_le_two hplace
    rw [zpow_add_one₀ two_ne_zero] at hnext
    have hsig : (x.significand : ℚ) ≤ 2 ^ 53 := by exact_mod_cast x.significand_lt.le
    have hsmall : (x.significand : ℚ) * 2 ^ x.exponent ≤ k * 2 ^ e := by
      calc (x.significand : ℚ) * 2 ^ x.exponent ≤ 2 ^ 53 * 2 ^ x.exponent := by gcongr
        _ ≤ 2 ^ 52 * 2 ^ e := by linarith
        _ ≤ k * 2 ^ e := by
            gcongr
            exact_mod_cast hk
    exact absurd h (not_lt.mpr hsmall)

/-- **A proper ratio of a whole number stays below it**, also when the product is rounded. -/
theorem rounded_natCast_mul_lt {top : ℕ} {x : Scaled} (htop : 0 < top) (h : x.toRat < 1) :
    rounded (top * x.toRat) < top := by
  have htop1 : (1 : ℚ) ≤ top := by exact_mod_cast htop
  have hx0 : 0 ≤ x.toRat := by
    rw [toRat_eq]
    positivity
  have hprod : (top : ℚ) * x.toRat ≤ top * (1 - 1 / 2 ^ 53) := by
    gcongr
    exact Scaled.toRat_le_of_lt_one h
  have herr := (abs_le.mp (abs_rounded_sub_le (mul_nonneg (by positivity : (0 : ℚ) ≤ top) hx0))).2
  -- What bounds the error is a part of the product, or the least unit of all.
  rcases max_cases ((top : ℚ) * x.toRat / 2 ^ 53) (2 ^ (-1075 : ℤ)) with ⟨hmax, -⟩ | ⟨hmax, -⟩
  · rw [hmax] at herr
    have : rounded (top * x.toRat) ≤ top * (1 - 1 / 2 ^ 53) * (1 + 1 / 2 ^ 53) := by
      calc rounded (top * x.toRat) ≤ top * x.toRat * (1 + 1 / 2 ^ 53) := by linarith
        _ ≤ top * (1 - 1 / 2 ^ 53) * (1 + 1 / 2 ^ 53) := by gcongr
    norm_num at this
    linarith
  · rw [hmax] at herr
    have htiny : (2 : ℚ) ^ (-1075 : ℤ) ≤ 1 / 2 ^ 54 := by
      rw [one_div, ← zpow_natCast, ← zpow_neg]
      exact zpow_le_zpow_right₀ one_le_two (by norm_num)
    norm_num at hprod
    linarith

end RouteAtlas
