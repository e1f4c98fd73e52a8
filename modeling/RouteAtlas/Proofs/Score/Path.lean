import Mathlib.Tactic.ByContra
import RouteAtlas.Proofs.Score.Scattered
import RouteAtlas.Proofs.Score.Word
import RouteAtlas.Proofs.Text.Case
import RouteAtlas.Score.Path

/-!
# Bands of path scores

The tiers of a path score lie in bands that do not meet: 10000 for the exact path, 5010 to 9999 for
one that only ends with the query, at most 4999 for all others, however much the segments of a
window or the characters of the query add up to (`pathScore_cases`). So the score alone tells
whether a path is exact or ends with the query (`pathScore_bands`).

That the suffix band starts above 5000 rests on a query that still has a character when it is in
lower case: putting a text in lower case never shortens it.

At the lower end, a path scores whenever it has the characters of the query in order
(`pathScore_pos`).
-/

namespace RouteAtlas

variable {target pattern : Text}

/-- **What a path is scored**: the exact score, one in the suffix band, or one below both. -/
theorem pathScore_cases (htarget : target ≠ []) (hpattern : pattern ≠ []) :
    (Text.lower target = Text.lower pattern ∧ pathScore target pattern = 10000) ∨
      (Text.lower target ≠ Text.lower pattern ∧ Text.lower pattern <:+ Text.lower target ∧
        5010 ≤ pathScore target pattern ∧ pathScore target pattern ≤ 9999) ∨
      (¬ Text.lower pattern <:+ Text.lower target ∧ pathScore target pattern ≤ 4999) := by
  have hhit : pathHit target pattern = lowerPathHit (Text.lower target) (Text.lower pattern) := by
    rw [pathHit, if_neg (by simp [htarget, hpattern])]
  have hlong : 1 ≤ (Text.lower pattern).length :=
    Nat.le_trans (List.length_pos_iff.mpr hpattern) (Text.length_le_length_lower pattern)
  rw [pathScore, hhit, lowerPathHit]
  by_cases hequal : Text.lower target = Text.lower pattern
  · left
    rw [if_pos hequal]
    exact ⟨hequal, rfl⟩
  rw [if_neg hequal]
  by_cases hsuffix : (Text.lower pattern).isSuffixOf (Text.lower target) = true
  · right; left
    rw [if_pos hsuffix]
    refine ⟨hequal, List.isSuffixOf_iff_suffix.mp hsuffix, ?_, Nat.min_le_right _ _⟩
    dsimp only [suffixCeiling]
    omega
  · right; right
    rw [if_neg hsuffix]
    refine ⟨fun h => hsuffix (List.isSuffixOf_iff_suffix.mpr h), ?_⟩
    -- Each of the tiers below has the ceiling, or no points at all.
    dsimp only
    split
    · exact Nat.min_le_right _ _
    · split
      · exact Nat.min_le_right _ _
      · split
        · exact Nat.min_le_right _ _
        · exact Nat.zero_le _

theorem pathScore_of_nil (pattern : Text) : pathScore [] pattern = 0 := rfl

/-- Only the exact path is scored 10000. -/
theorem pathScore_le_of_ne (hpattern : pattern ≠ []) (h : Text.lower target ≠ Text.lower pattern) :
    pathScore target pattern ≤ 9999 := by
  by_cases htarget : target = []
  · rw [htarget, pathScore_of_nil]
    omega
  · rcases pathScore_cases htarget hpattern with ⟨hequal, -⟩ | ⟨-, -, -, hle⟩ | ⟨-, hle⟩
    · exact absurd hequal h
    · exact hle
    · omega

/-- A path that does not end with the query is scored below all that do. -/
theorem pathScore_le_of_not_suffix (hpattern : pattern ≠ [])
    (h : ¬ Text.lower pattern <:+ Text.lower target) : pathScore target pattern ≤ 4999 := by
  by_cases htarget : target = []
  · rw [htarget, pathScore_of_nil]
    omega
  · rcases pathScore_cases htarget hpattern with ⟨hequal, -⟩ | ⟨-, hsuffix, -⟩ | ⟨-, hle⟩
    · exact absurd (hequal ▸ List.suffix_refl _) h
    · exact absurd hsuffix h
    · exact hle

/-- A path that has the query's characters in order scores: where a tier in front of the scattered
one applies, it gives points as well. -/
theorem pathScore_pos (hpattern : pattern ≠ [])
    (h : (Text.lower pattern).Sublist (Text.lower target)) : 0 < pathScore target pattern := by
  have hlong : 0 < (Text.lower pattern).length :=
    List.length_pos_iff.mpr (mt Text.lower_eq_nil_iff.mp hpattern)
  have htarget : target ≠ [] := by
    rintro rfl
    exact List.length_pos_iff.mp hlong (List.sublist_nil.mp h)
  rw [pathScore, pathHit, if_neg (by simp [htarget, hpattern]), lowerPathHit]
  dsimp only
  split
  next => omega
  next =>
    split
    next => exact lt_min (by omega) (by decide)
    next =>
      split
      next hwindow => exact lt_min hwindow (by decide)
      next =>
        split
        next hfallback => exact lt_min hfallback (by decide)
        next =>
          rw [if_pos (isSubsequence_iff_sublist.mpr h)]
          exact lt_min (by omega) (by decide)

/-- **The bands of path scores.** A score of 10000 tells that path and query are equal in lower
case, one from 5010 to 9999 that the path is longer and ends with the query, and in every other case
it is 4999 at most. So the exact path outscores all others for the same query, and one that ends
with the query outscores all that do not. -/
theorem pathScore_bands (htarget : target ≠ []) (hpattern : pattern ≠ []) :
    (pathScore target pattern = 10000 ↔ Text.lower target = Text.lower pattern) ∧
      (5010 ≤ pathScore target pattern ∧ pathScore target pattern ≤ 9999 ↔
        Text.lower pattern <:+ Text.lower target ∧ Text.lower pattern ≠ Text.lower target) ∧
      (¬ Text.lower pattern <:+ Text.lower target → pathScore target pattern ≤ 4999) ∧
      (Text.lower target = Text.lower pattern → ∀ other, Text.lower other ≠ Text.lower pattern →
        pathScore other pattern < pathScore target pattern) ∧
      (Text.lower pattern <:+ Text.lower target → ∀ other,
        ¬ Text.lower pattern <:+ Text.lower other →
        pathScore other pattern < pathScore target pattern) := by
  have hexact : pathScore target pattern = 10000 ↔ Text.lower target = Text.lower pattern := by
    constructor
    · intro hscore
      by_contra hne
      have hle := pathScore_le_of_ne hpattern hne
      omega
    · intro hequal
      rcases pathScore_cases htarget hpattern with ⟨-, hscore⟩ | ⟨hne, -⟩ | ⟨hno, -⟩
      · exact hscore
      · exact absurd hequal hne
      · exact absurd (hequal ▸ List.suffix_refl _) hno
  have hsuffix : Text.lower pattern <:+ Text.lower target ↔ 5010 ≤ pathScore target pattern := by
    constructor
    · intro hends
      rcases pathScore_cases htarget hpattern with ⟨-, hscore⟩ | ⟨-, -, hle, -⟩ | ⟨hno, -⟩
      · omega
      · exact hle
      · exact absurd hends hno
    · intro hle
      by_contra hno
      have hlow := pathScore_le_of_not_suffix hpattern hno
      omega
  refine ⟨hexact, ?_, pathScore_le_of_not_suffix hpattern, ?_, ?_⟩
  · rw [hsuffix, ne_comm, Ne, ← hexact]
    constructor
    · rintro ⟨hlow, hhigh⟩
      exact ⟨hlow, by omega⟩
    · rintro ⟨hlow, hne⟩
      exact ⟨hlow, pathScore_le_of_ne hpattern (mt hexact.mpr hne)⟩
  · intro hequal other hother
    have hle := pathScore_le_of_ne hpattern hother
    have hscore := hexact.mpr hequal
    omega
  · intro hends other hother
    have hle := pathScore_le_of_not_suffix hpattern hother
    have hscore := hsuffix.mp hends
    omega

/-- A sigma behind a letter is another one in lower case than a sigma alone, so that the path ends
with the first query and not with the second. -/
theorem pathScore_bands_sigma :
    "/aΣ".toList ≠ [] ∧ "AΣ".toList ≠ [] ∧ "Σ".toList ≠ [] ∧
      (5010 ≤ pathScore "/aΣ".toList "AΣ".toList ∧ pathScore "/aΣ".toList "AΣ".toList ≤ 9999) ∧
      pathScore "/aΣ".toList "Σ".toList ≤ 4999 := by
  have hpath : "/aΣ".toList ≠ [] := by decide
  have hword : "AΣ".toList ≠ [] := by decide
  have hletter : "Σ".toList ≠ [] := by decide
  have hends : Text.lower "AΣ".toList <:+ Text.lower "/aΣ".toList ∧
      Text.lower "AΣ".toList ≠ Text.lower "/aΣ".toList := by decide
  have hno : ¬ Text.lower "Σ".toList <:+ Text.lower "/aΣ".toList := by decide
  exact ⟨hpath, hword, hletter, (pathScore_bands hpath hword).2.1.mpr hends,
    (pathScore_bands hpath hletter).2.2.1 hno⟩

end RouteAtlas
