import RouteAtlas.Proofs.Number.Rounding
import RouteAtlas.Proofs.Score.Scattered
import RouteAtlas.Proofs.Text.Case
import RouteAtlas.Score.Word

/-!
# What likeness is worth and what a name can score

A similarity is at most 1 (`similarity_le_one`), and points are in proportion to it: on a scale
that can still be counted exactly they are at most the scale (`points_le`), and as many as a whole
number in exact arithmetic allows (`le_points`). Both rest on rounding never passing a whole number.
Points never fall while likeness grows (`points_mono`).

A name scores 1000 at most, whatever it is compared with (`wordScore_le`), and so does the better
of a controller's two names (`controllerScore_le`). A name that has the query's characters in order
always scores (`wordScore_pos`): each tier that comes before the scattered one and applies gives
points, too.
-/

namespace RouteAtlas

/-! ## Likeness -/

variable {scale k : Nat} {alike : Rat} {target pattern : Text}

/-- No two texts are more alike than equal ones. -/
theorem similarity_le_one (a b : Text) : similarity a b ≤ 1 := by
  simp only [similarity]
  split
  next => exact le_rfl
  next =>
    have hone : (1 : ℚ) - rounded (mkRat (editDistance (Text.lower a) (Text.lower b))
        (max (Text.lower a).length (Text.lower b).length)) ≤ (1 : ℕ) := by
      rw [Nat.cast_one]
      exact sub_le_self 1 (rounded_nonneg _)
    exact_mod_cast rounded_le_natCast (by norm_num) hone

theorem points_le (hscale : scale < 2 ^ 53) (h : alike ≤ 1) : points scale alike ≤ scale := by
  have hproduct : alike * scale ≤ scale := mul_le_of_le_one_left scale.cast_nonneg h
  have hfloor : (rounded (alike * scale)).floor ≤ ((scale : ℤ) : ℚ).floor :=
    Rat.floor_monotone (by exact_mod_cast rounded_le_natCast hscale hproduct)
  rw [Rat.floor_intCast] at hfloor
  rw [points]
  omega

theorem le_points (hk : k < 2 ^ 53) (h : (k : ℚ) ≤ alike * scale) : k ≤ points scale alike := by
  have hfloor : (k : ℤ) ≤ (rounded (alike * scale)).floor :=
    Rat.le_floor_iff.mpr (by exact_mod_cast natCast_le_rounded hk h)
  rw [points]
  omega

/-- What is more alike is worth no fewer points. -/
theorem points_mono {more : Rat} (scale : Nat) (h : alike ≤ more) :
    points scale alike ≤ points scale more := by
  have hproduct : alike * scale ≤ more * scale := mul_le_mul_of_nonneg_right h scale.cast_nonneg
  exact Int.toNat_le_toNat (Rat.floor_monotone (rounded_mono hproduct))

/-! ## Names -/

theorem wordScore_le (target pattern : Text) : wordScore target pattern ≤ 1000 := by
  have halike : points 800 (similarity (Text.lower target) (Text.lower pattern)) ≤ 800 :=
    points_le (by norm_num) (similarity_le_one _ _)
  rw [wordScore]
  split
  next => exact Nat.zero_le _
  next =>
    rw [lowerWordScore]
    dsimp only
    split_ifs <;> omega

theorem controllerScore_le (name pattern : Text) : controllerScore name pattern ≤ 1000 :=
  max_le (wordScore_le name pattern) (wordScore_le _ pattern)

/-- What is alike by more than a half has at least half of the points. -/
theorem le_points_of_wordThreshold_lt {alike : Rat} (h : wordThreshold < alike) :
    400 ≤ points 800 alike := by
  refine le_points (by norm_num) ?_
  rw [wordThreshold, Rat.mkRat_eq_div] at h
  push_cast at h ⊢
  linarith

theorem wordScore_pos (hpattern : pattern ≠ [])
    (h : (Text.lower pattern).Sublist (Text.lower target)) : 0 < wordScore target pattern := by
  have hlower : Text.lower pattern ≠ [] := mt Text.lower_eq_nil_iff.mp hpattern
  have htarget : target ≠ [] := by
    rintro rfl
    exact hlower (List.sublist_nil.mp h)
  rw [wordScore, if_neg (by simp [htarget, hpattern]), lowerWordScore]
  dsimp only
  -- one tier after the other; only the last one asks for the characters in order
  split
  next => omega
  next =>
    split
    next halike => exact (Nat.zero_lt_succ 399).trans_le (le_points_of_wordThreshold_lt halike)
    next =>
      split
      next => omega
      next =>
        rw [if_pos (isSubsequence_iff_sublist.mpr h)]
        omega

theorem controllerScore_pos (hpattern : pattern ≠ [])
    (h : (Text.lower pattern).Sublist (Text.lower target)) : 0 < controllerScore target pattern :=
  lt_max_of_lt_left (wordScore_pos hpattern h)

end RouteAtlas
