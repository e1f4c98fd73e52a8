import Mathlib.Data.List.Forall2
import RouteAtlas.Proofs.Score.Path

/-!
# The lower tiers of path scores

The three tiers below the suffix tier share one ceiling. A path of an earlier one of them is meant
to score more than any path of a later one, but nothing sees to it: a window of one segment in front
of others can be worth 75 points, a single segment at the end of a path 200, and scattered
characters 5 each, however many there are (`lower_tiers_overlap`).

The order is kept where the scores cannot meet. The segments of a window are worth 65 points each at
least and more for their places (`windowLeast`), a single segment from 30 to 50 points and the bonus
for its place. If what is sure of the one path is more than what is possible for the other, the path
of the earlier tier scores strictly more (`lower_tiers_in_order`). So a window at the end of a path
outscores all single segments of short paths.
-/

namespace RouteAtlas

/-! ## Thresholds -/

/-- The numbers that the thresholds are rounded to. -/
theorem thresholds_eq :
    windowThreshold = mkRat 5854679515581645 (2 ^ 53) ∧
      fallbackThreshold = mkRat 5404319552844595 (2 ^ 53) := by
  decide +kernel

/-- A window asks for a similarity of 0.65, as it is rounded up. -/
theorem le_windowThreshold : (65 : ℚ) / 100 ≤ windowThreshold := by
  rw [thresholds_eq.1, Rat.mkRat_eq_div]
  norm_num

/-- The threshold is a bit less than 0.6, and the next number is a bit more. -/
theorem fallbackThreshold_eq :
    fallbackThreshold = (5404319552844595 : ℕ) * 2 ^ (-53 : ℤ) := by
  rw [thresholds_eq.2, Rat.mkRat_eq_div]
  norm_num

/-- A similarity is 1 or the result of a rounding. -/
theorem similarity_cases (a b : Text) :
    similarity a b = 1 ∨ ∃ x : Scaled, similarity a b = x.toRat := by
  rw [similarity]
  split
  next => exact .inl rfl
  next => exact .inr ⟨_, rfl⟩

/-- A segment that fits is worth 65 points for its similarity at least. -/
theorem le_points_of_windowThreshold_le {alike : ℚ} (h : windowThreshold ≤ alike) :
    65 ≤ points 100 alike := by
  refine le_points (by norm_num) ?_
  have hle := le_windowThreshold
  push_cast
  linarith

/-- A segment that is alike is worth 30 points for its similarity at least. -/
theorem le_points_of_fallbackThreshold_lt {a b : Text} (h : fallbackThreshold < similarity a b) :
    30 ≤ points 50 (similarity a b) := by
  refine le_points (by norm_num) ?_
  rcases similarity_cases a b with hone | ⟨x, hx⟩
  · rw [hone]
    norm_num
  · rw [hx, fallbackThreshold_eq] at h
    have hnext := Scaled.add_unit_le (by norm_num) h
    rw [hx]
    norm_num at hnext ⊢
    linarith

/-! ## The best of several -/

/-- A maximum is below a bound if all values are. -/
theorem foldl_max_lt_iff {values : List ℕ} {first bound : ℕ} :
    values.foldl max first < bound ↔ first < bound ∧ ∀ n ∈ values, n < bound := by
  induction values generalizing first with
  | nil => simp
  | cons n values ih => rw [List.foldl_cons, ih, max_lt_iff, List.forall_mem_cons, and_assoc]

theorem le_foldl_max {values : List ℕ} {n : ℕ} (h : n ∈ values) (first : ℕ) :
    n ≤ values.foldl max first := by
  by_contra hlt
  exact lt_irrefl n ((foldl_max_lt_iff.mp (not_le.mp hlt)).2 n h)

/-! ## Windows -/

/-- The pattern fits on the path from a segment on: each of its segments is alike to the one it lies
on. -/
def FitsAt (target pattern : List Text) (offset : ℕ) : Prop :=
  List.Forall₂ (fun segment needle => windowThreshold ≤ similarity segment needle)
    ((target.drop offset).take pattern.length) pattern

instance (target pattern : List Text) (offset : ℕ) : Decidable (FitsAt target pattern offset) :=
  inferInstanceAs (Decidable (List.Forall₂ _ _ _))

/-- The least that a window is worth: for each segment 65 points, and 10 for its place and each one
in front; and 200 at the end of the path. -/
def windowLeast (count width offset : ℕ) : ℕ :=
  5 * width * (2 * offset + width + 14) + if offset + width = count then 200 else 0

/-- Segments are aligned if each is similar enough to the one it is compared with. -/
theorem isSome_alignmentScore?_iff {position : ℕ} {target pattern : List Text} :
    (alignmentScore? position target pattern).isSome = true ↔
      List.Forall₂ (fun segment needle => windowThreshold ≤ similarity segment needle)
        (target.take pattern.length) pattern := by
  fun_induction alignmentScore? position target pattern with
  | case1 position target => simp
  | case2 position p pattern => simp
  | case3 position t target p pattern alike hlt =>
    rw [List.length_cons, List.take_succ_cons, List.forall₂_cons]
    exact iff_of_false (by simp) (fun h => absurd hlt (not_lt.mpr h.1))
  | case4 position t target p pattern alike hle ih =>
    rw [Option.isSome_map, ih, List.length_cons, List.take_succ_cons, List.forall₂_cons]
    exact (and_iff_right (not_lt.mp hle)).symm

/-- What aligned segments are worth at least: their similarities, and what their places add. -/
theorem le_of_alignmentScore? {position score : ℕ} {target pattern : List Text}
    (h : alignmentScore? position target pattern = some score) :
    5 * pattern.length * (2 * position + pattern.length + 14) ≤ score := by
  induction pattern generalizing position target score with
  | nil => simp
  | cons p pattern ih =>
    cases target with
    | nil => cases h
    | cons t target =>
      rw [alignmentScore?] at h
      by_cases hlt : similarity t p < windowThreshold
      · rw [if_pos hlt] at h
        cases h
      · rw [if_neg hlt] at h
        obtain ⟨others, hothers, rfl⟩ := Option.map_eq_some_iff.mp h
        have hfirst := le_points_of_windowThreshold_le (not_lt.mp hlt)
        have hrest := ih hothers
        rw [List.length_cons]
        linarith

section Window

variable {target pattern : List Text} {offset : ℕ}

/-- A window does not stick out of the target. -/
theorem FitsAt.length_le (h : FitsAt target pattern offset) (hpattern : pattern ≠ []) :
    offset + pattern.length ≤ target.length := by
  have hlength := List.Forall₂.length_eq h
  have hpos := List.length_pos_iff.mpr hpattern
  rw [List.length_take, List.length_drop] at hlength
  omega

theorem FitsAt.le_windowScoreAt (h : FitsAt target pattern offset) :
    windowLeast target.length pattern.length offset ≤ windowScoreAt target pattern offset := by
  obtain ⟨score, hscore⟩ := Option.isSome_iff_exists.mp (isSome_alignmentScore?_iff.mpr h)
  have hle := le_of_alignmentScore? hscore
  rw [windowLeast, windowScoreAt, hscore]
  dsimp only
  split <;> omega

theorem FitsAt.windowScoreAt_le (h : FitsAt target pattern offset) (hpattern : pattern ≠ []) :
    windowScoreAt target pattern offset ≤ windowScore target pattern := by
  have hlength := h.length_le hpattern
  rw [windowScore, if_neg (by simp [hpattern]; omega)]
  refine le_foldl_max (List.mem_map_of_mem ?_) 0
  rw [List.mem_range]
  omega

/-- The best window is worth at least what each one is worth that fits. -/
theorem FitsAt.le_windowScore (h : FitsAt target pattern offset) (hpattern : pattern ≠ []) :
    windowLeast target.length pattern.length offset ≤ windowScore target pattern :=
  h.le_windowScoreAt.trans (h.windowScoreAt_le hpattern)

/-- A window that does not fit is worth nothing. -/
theorem windowScoreAt_of_not_fitsAt (h : ¬ FitsAt target pattern offset) :
    windowScoreAt target pattern offset = 0 := by
  have hnone : alignmentScore? offset (target.drop offset) pattern = none :=
    Option.not_isSome_iff_eq_none.mp (mt isSome_alignmentScore?_iff.mp h)
  rw [windowScoreAt, hnone]

/-- Where windows have scored, the score is that of one that fits. -/
theorem exists_windowScore_eq (h : 0 < windowScore target pattern) :
    pattern ≠ [] ∧ ∃ offset, FitsAt target pattern offset ∧
      windowScore target pattern = windowScoreAt target pattern offset := by
  have hpattern : pattern ≠ [] := by
    rintro rfl
    exact absurd h (lt_irrefl 0)
  refine ⟨hpattern, ?_⟩
  by_contra hnone
  rw [not_exists] at hnone
  have hbest := h
  rw [windowScore] at hbest
  split at hbest
  next => exact absurd hbest (lt_irrefl 0)
  next hlong =>
    -- each window scores less than the best one, and so does the best one
    refine lt_irrefl (windowScore target pattern) ?_
    conv_lhs => rw [windowScore, if_neg hlong]
    rw [foldl_max_lt_iff]
    refine ⟨h, ?_⟩
    rw [List.forall_mem_map]
    intro offset _
    by_cases hfits : FitsAt target pattern offset
    · have hle := hfits.windowScoreAt_le hpattern
      exact hle.lt_of_ne fun heq => hnone offset ⟨hfits, heq.symm⟩
    · rw [windowScoreAt_of_not_fitsAt hfits]
      exact h

/-- Where windows have scored, one fits. -/
theorem exists_fitsAt (h : 0 < windowScore target pattern) :
    pattern ≠ [] ∧ ∃ offset, FitsAt target pattern offset := by
  obtain ⟨hpattern, offset, hfits, -⟩ := exists_windowScore_eq h
  exact ⟨hpattern, offset, hfits⟩

end Window

/-! ## Single segments -/

/-- A segment of the path is alike to the last one of the pattern. -/
def AlikeAt (target pattern : List Text) (position : ℕ) : Prop :=
  ∃ segment ∈ target[position]?, ∃ needle ∈ pattern.getLast?,
    fallbackThreshold < similarity segment needle

section Fallback

variable {target pattern : List Text} {position : ℕ}

/-- A segment that is alike is worth 30 to 50 points and what its place adds. -/
theorem segmentScore_bounds {segment needle : Text}
    (h : fallbackThreshold < similarity segment needle) (count position : ℕ) :
    30 + fallbackBonus count position ≤ segmentScore count needle segment position ∧
      segmentScore count needle segment position ≤ 50 + fallbackBonus count position := by
  have hleast := le_points_of_fallbackThreshold_lt h
  have hmost : points 50 (similarity segment needle) ≤ 50 :=
    points_le (by norm_num) (similarity_le_one segment needle)
  rw [segmentScore, if_neg (not_le.mpr h)]
  omega

/-- The best single segment is the largest of all that are scored. -/
theorem fallbackScore_le_iff {needle : Text} (hneedle : pattern.getLast? = some needle)
    {bound : ℕ} :
    fallbackScore target pattern ≤ bound ↔
      ∀ position segment, target[position]? = some segment →
        segmentScore target.length needle segment position ≤ bound := by
  rw [fallbackScore, hneedle, ← Nat.lt_succ_iff, foldl_max_lt_iff, List.forall_mem_map,
    and_iff_right (Nat.succ_pos bound)]
  constructor
  · intro h position segment hsegment
    exact Nat.lt_succ_iff.mp (h (segment, position) (List.mem_zipIdx_iff_getElem?.mpr hsegment))
  · rintro h ⟨segment, position⟩ hsegment
    exact Nat.lt_succ_iff.mpr (h position segment (List.mem_zipIdx_iff_getElem?.mp hsegment))

/-- No segment is worth more than the best one. -/
theorem segmentScore_le_fallbackScore {segment needle : Text}
    (hneedle : pattern.getLast? = some needle) (hsegment : target[position]? = some segment) :
    segmentScore target.length needle segment position ≤ fallbackScore target pattern :=
  (fallbackScore_le_iff hneedle).mp le_rfl position segment hsegment

theorem AlikeAt.le_fallbackScore (h : AlikeAt target pattern position) :
    30 + fallbackBonus target.length position ≤ fallbackScore target pattern := by
  obtain ⟨segment, hsegment, needle, hneedle, halike⟩ := h
  exact (segmentScore_bounds halike _ _).1.trans (segmentScore_le_fallbackScore hneedle hsegment)

/-- The best single segment is worth no more than some segment that is alike. -/
theorem fallbackScore_lt {bound : ℕ} (hbound : 0 < bound)
    (h : ∀ position, AlikeAt target pattern position →
      50 + fallbackBonus target.length position < bound) :
    fallbackScore target pattern < bound := by
  cases hneedle : pattern.getLast? with
  | none =>
    rw [fallbackScore, hneedle]
    exact hbound
  | some needle =>
    refine Nat.lt_of_le_pred hbound ((fallbackScore_le_iff hneedle).mpr ?_)
    intro position segment hsegment
    refine Nat.le_pred_of_lt ?_
    by_cases halike : fallbackThreshold < similarity segment needle
    · have hmost := h position ⟨segment, hsegment, needle, hneedle, halike⟩
      exact (segmentScore_bounds halike _ _).2.trans_lt hmost
    · rw [segmentScore, if_pos (not_lt.mp halike)]
      exact hbound

/-- Where single segments have scored, one is alike. -/
theorem exists_alikeAt (h : 0 < fallbackScore target pattern) :
    ∃ position, AlikeAt target pattern position := by
  by_contra hnone
  rw [not_exists] at hnone
  have hless := fallbackScore_lt Nat.zero_lt_one fun position halike => absurd halike (hnone position)
  exact not_le.mpr h (Nat.lt_succ_iff.mp hless)

end Fallback

/-! ## The tiers -/

/-- The tier that decides the score of a path. -/
def pathTier (target pattern : Text) : PathTier := (pathHit target pattern).1

/-- The segments of a path as they are compared. -/
def loweredSegments (path : Text) : List Text := segments (Text.lower path)

section Tier

variable {target pattern : Text}

/-- What the lower tiers are worth. -/
theorem pathScore_of_lower_tier (target pattern : Text) :
    let worth := windowScore (loweredSegments target) (loweredSegments pattern)
    let single := fallbackScore (loweredSegments target) (loweredSegments pattern)
    (pathTier target pattern = .window →
      0 < worth ∧ pathScore target pattern = min worth lowerCeiling) ∧
    (pathTier target pattern = .fallback →
      0 < single ∧ pathScore target pattern = min single lowerCeiling) ∧
    (pathTier target pattern = .scattered →
      pathScore target pattern = min (5 * (Text.lower pattern).length) lowerCeiling) := by
  intro worth single
  rw [pathTier, pathScore, pathHit]
  split
  next => simp
  next =>
    rw [lowerPathHit]
    dsimp only
    split_ifs <;> simp_all [worth, single, loweredSegments]

end Tier

/-- **The lower tiers are in order** where their scores cannot meet. A path of the window tier has a
window that fits, and one of the fallback tier a segment that is alike. For any such window or
segment of the first path: if the least that it is worth is more than what is possible for the
second path, which is of a later tier, the first path scores strictly more. -/
theorem lower_tiers_in_order (first second pattern : Text) :
    let a := loweredSegments first
    let b := loweredSegments second
    let query := loweredSegments pattern
    (pathTier first pattern = .window → ∃ offset, FitsAt a query offset) ∧
    (pathTier first pattern = .fallback → ∃ position, AlikeAt a query position) ∧
    (pathTier first pattern = .window → pathTier second pattern = .fallback →
      ∀ offset, FitsAt a query offset →
      (∀ position, AlikeAt b query position →
        50 + fallbackBonus b.length position <
          min (windowLeast a.length query.length offset) lowerCeiling) →
      pathScore second pattern < pathScore first pattern) ∧
    (pathTier first pattern = .window → pathTier second pattern = .scattered →
      ∀ offset, FitsAt a query offset →
      5 * (Text.lower pattern).length <
        min (windowLeast a.length query.length offset) lowerCeiling →
      pathScore second pattern < pathScore first pattern) ∧
    (pathTier first pattern = .fallback → pathTier second pattern = .scattered →
      ∀ position, AlikeAt a query position →
      5 * (Text.lower pattern).length < min (30 + fallbackBonus a.length position) lowerCeiling →
      pathScore second pattern < pathScore first pattern) := by
  intro a b query
  obtain ⟨hwindow, hfallback, -⟩ := pathScore_of_lower_tier first pattern
  obtain ⟨-, hfallback', hscattered'⟩ := pathScore_of_lower_tier second pattern
  -- Which of the windows is the best one makes no difference, for it is worth no less than this
  -- one.
  have hleast (htier : pathTier first pattern = .window) {offset : ℕ}
      (hfits : FitsAt a query offset) :
      min (windowLeast a.length query.length offset) lowerCeiling ≤ pathScore first pattern := by
    obtain ⟨hpos, hscore⟩ := hwindow htier
    rw [hscore]
    exact min_le_min_right _ (hfits.le_windowScore (exists_fitsAt hpos).1)
  refine ⟨fun htier => (exists_fitsAt (hwindow htier).1).2,
    fun htier => exists_alikeAt (hfallback htier).1, ?_, ?_, ?_⟩
  · intro htier htier' offset hfits hless
    obtain ⟨hpos, hscore⟩ := hfallback' htier'
    obtain ⟨position, halike⟩ := exists_alikeAt hpos
    have hbound := (Nat.zero_le _).trans_lt (hless position halike)
    rw [hscore]
    exact (min_le_left _ _).trans_lt ((fallbackScore_lt hbound hless).trans_le (hleast htier hfits))
  · intro htier htier' offset hfits hless
    rw [hscattered' htier']
    exact (min_le_left _ _).trans_lt (hless.trans_le (hleast htier hfits))
  · intro htier htier' position halike hless
    rw [hscattered' htier', (hfallback htier).2]
    exact (min_le_left _ _).trans_lt
      (hless.trans_le (min_le_min_right _ halike.le_fallbackScore))

/-- A window at the end of a path outscores a single segment and scattered characters, and a single
segment at the end outscores scattered characters of a short query. -/
theorem lower_tiers_in_order_at_end :
    let query := "users".toList
    let window := "/api/user".toList
    let single := "/api/usersets".toList
    let scattered := "/u/s/e/r/s/x".toList
    (pathTier window query = .window ∧ pathTier single query = .fallback ∧
      pathTier scattered query = .scattered) ∧
    (FitsAt (loweredSegments window) (loweredSegments query) 1 ∧
      AlikeAt (loweredSegments single) (loweredSegments query) 1) ∧
    pathScore single query < pathScore window query ∧
      pathScore scattered query < pathScore window query ∧
      pathScore scattered query < pathScore single query := by
  intro query window single scattered
  have htiers : pathTier window query = .window ∧ pathTier single query = .fallback ∧
      pathTier scattered query = .scattered := by decide +kernel
  have hfits : FitsAt (loweredSegments window) (loweredSegments query) 1 := by decide +kernel
  have halike : AlikeAt (loweredSegments single) (loweredSegments query) 1 :=
    ⟨"usersets".toList, rfl, "users".toList, rfl, by decide +kernel⟩
  -- in a path of two segments the bonus is 150 at most
  have hmost : ∀ position, AlikeAt (loweredSegments single) (loweredSegments query) position →
      50 + fallbackBonus (loweredSegments single).length position <
        min (windowLeast (loweredSegments window).length (loweredSegments query).length 1)
          lowerCeiling := by
    have hplaces : ∀ position < (loweredSegments single).length,
        50 + fallbackBonus (loweredSegments single).length position <
          min (windowLeast (loweredSegments window).length (loweredSegments query).length 1)
            lowerCeiling := by decide +kernel
    rintro position ⟨segment, hsegment, -⟩
    obtain ⟨hplace, -⟩ := List.getElem?_eq_some_iff.mp hsegment
    exact hplaces position hplace
  refine ⟨htiers, ⟨hfits, halike⟩, ?_, ?_, ?_⟩
  · exact (lower_tiers_in_order window single query).2.2.1 htiers.1 htiers.2.1 1 hfits hmost
  · exact (lower_tiers_in_order window scattered query).2.2.2.1 htiers.1 htiers.2.2 1 hfits
      (by decide +kernel)
  · exact (lower_tiers_in_order single scattered query).2.2.2.2 htiers.2.1 htiers.2.2 1 halike
      (by decide +kernel)

/-- Each tier can score less than each later one: a window at the beginning of a path less than a
single segment at the end, and both less than the scattered characters of a long query. -/
theorem lower_tiers_overlap :
    (pathHit "/users/orders".toList "users".toList = (.window, 110) ∧
      pathHit "/api/usersets".toList "users".toList = (.fallback, 181)) ∧
    (pathHit "/applicationconfigurations/x".toList "applicationconfigurations".toList =
        (.window, 110) ∧
      pathHit "/application-and-its-own-configuration-settings".toList
        "applicationconfigurations".toList = (.scattered, 125)) ∧
    (pathHit "/accountants/x/y".toList "account".toList = (.fallback, 31) ∧
      pathHit "/app/checkout/unit".toList "account".toList = (.scattered, 35)) := by
  repeat rw [String.toList_ofList]
  decide +kernel

end RouteAtlas
