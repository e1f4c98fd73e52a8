import RouteAtlas.Proofs.Score.EditDistance
import RouteAtlas.Proofs.Score.Word
import RouteAtlas.Proofs.Text.Lowered

/-!
# Tiers of word scores

The score of a word tells which tier it is in, and the tier is the first one whose condition holds:
the words are equal in lower case, fewer edits than half of the longer length turn one into the
other, the one has the other in it, the one has the characters of the other in order
(`IsTiered`). The edits count as fewest, whatever they are.

The second tier is decided, and its scores are given, by a quotient. So the scores are written here
with the arithmetic as a parameter: a function that rounds each result. With the identity they are
those of exact arithmetic; with `rounded` they are the ones that are computed
(`wordScoreBy_rounded`). What is needed of the arithmetic is that it does not pass some multiples of
a unit that is small enough for the words (`IsFineFor`). Then the similarity of unequal words stays
away from 1, and one that is above a half or not in exact arithmetic is so in this one
(`half_lt_alikeBy_iff`). Exact arithmetic is fine enough for all words, and 53 binary digits are for
words of up to `2 ^ 42` characters.
-/

namespace RouteAtlas

/-! ## Scores in an arithmetic -/

section Arithmetic

variable (round : ℚ → ℚ)

/-- How alike words are that so many edits set apart. -/
def alikeBy (distance longest : ℕ) : ℚ := round (1 - round (mkRat distance longest))

/-- How alike two words are, each result being rounded. -/
def similarityBy (a b : Text) : ℚ :=
  let a := Text.lower a
  let b := Text.lower b
  let longest := max a.length b.length
  if longest = 0 then 1 else alikeBy round (editDistance a b) longest

/-- A similarity on a scale, the product being rounded. -/
def pointsBy (scale : ℕ) (alike : ℚ) : ℕ := (round (alike * scale)).floor.toNat

/-- The score of a word, each result being rounded. -/
def wordScoreBy (target pattern : Text) : ℕ :=
  if target.isEmpty || pattern.isEmpty then 0
  else
    let target := Text.lower target
    let pattern := Text.lower pattern
    if target = pattern then 1000
    else
      let alike := similarityBy round target pattern
      if wordThreshold < alike then pointsBy round 800 alike
      else if Text.hasPart pattern target then 300
      else if isSubsequence target pattern then 100
      else 0

end Arithmetic

/-- Points are cut off to a whole number, and a number other than 0 is reached before that or not at
all. -/
theorem le_pointsBy_iff {round : ℚ → ℚ} {scale k : ℕ} {alike : ℚ} (hk : 0 < k) :
    k ≤ pointsBy round scale alike ↔ (k : ℚ) ≤ round (alike * scale) := by
  have hnat : k ≤ pointsBy round scale alike ↔ (k : ℤ) ≤ (round (alike * scale)).floor := by
    rw [pointsBy]
    omega
  rw [hnat, Rat.le_floor_iff, Int.cast_natCast]

/-- With rounding, the similarity is the one that is computed. -/
theorem similarityBy_rounded : similarityBy rounded = similarity := rfl

theorem wordScoreBy_rounded : wordScoreBy rounded = wordScore := rfl

/-! ## What is said of them -/

/-- What holds of a similarity of two words. -/
structure IsSimilarity (alike : Text → Text → ℚ) (a b : Text) : Prop where
  nonneg : 0 ≤ alike a b
  le_one : alike a b ≤ 1
  symm : alike b a = alike a b
  eq_one_iff : alike a b = 1 ↔ Text.lower a = Text.lower b

/-- Twice the edit distance, which is the least number of edits, is less than the longer length. -/
def AreAlike (a b : Text) : Prop :=
  ∃ distance, IsLeast {n | EditsTo n a b} distance ∧ 2 * distance < max a.length b.length

/-- The score of two words in lower case tells the first tier whose condition holds. -/
structure IsTiered (target pattern : Text) (score : ℕ) : Prop where
  exact : score = 1000 ↔ target = pattern
  alike : 400 ≤ score ∧ score ≤ 799 ↔ target ≠ pattern ∧ AreAlike target pattern
  part : score = 300 ↔ target ≠ pattern ∧ ¬AreAlike target pattern ∧ pattern <:+: target
  scattered : score = 100 ↔
    target ≠ pattern ∧ ¬AreAlike target pattern ∧ ¬pattern <:+: target ∧
      pattern.Sublist target
  nothing : score = 0 ↔
    target ≠ pattern ∧ ¬AreAlike target pattern ∧ ¬pattern <:+: target ∧
      ¬pattern.Sublist target
  inexact : target ≠ pattern → score < 1000

/-- To be alike is to be fewer edits apart than half of the longer length. -/
theorem areAlike_iff {a b : Text} :
    AreAlike a b ↔ 2 * editDistance a b < max a.length b.length := by
  constructor
  · rintro ⟨distance, hleast, hfew⟩
    rwa [hleast.unique (isLeast_editDistance a b)] at hfew
  · intro hfew
    exact ⟨editDistance a b, isLeast_editDistance a b, hfew⟩

/-! ## Fine arithmetic -/

/-- The arithmetic does not pass the multiples, up to 800, of a unit that goes so many times into a
half. -/
structure KeepsUnits (round : ℚ → ℚ) (half : ℕ) : Prop where
  pos : 0 < half
  keeps : ∀ k ≤ 1600 * half, KeepsSides round (k / (2 * half))

/-- The arithmetic is fine enough for words up to a length. -/
def IsFineFor (round : ℚ → ℚ) (longest : ℕ) : Prop :=
  ∃ half, longest ≤ half ∧ KeepsUnits round half

/-- Exact arithmetic is fine enough for all words. -/
theorem isFineFor_id (longest : ℕ) : IsFineFor id longest :=
  ⟨longest + 1, Nat.le_succ longest, Nat.succ_pos longest, fun _ _ => ⟨fun h => h, fun h => h⟩⟩

/-- 53 binary digits are enough for words of up to `2 ^ 42` characters. -/
theorem isFineFor_rounded {longest : ℕ} (h : longest ≤ 2 ^ 42) : IsFineFor rounded longest := by
  refine ⟨2 ^ 42, h, by norm_num, fun k hk => ?_⟩
  have hunits := keepsSides_rounded (e := -43) (show k < 2 ^ 53 by omega) (by decide)
  have hvalue : (k : ℚ) / (2 * (2 ^ 42 : ℕ)) = k * 2 ^ (-43 : ℤ) := by
    rw [zpow_neg, div_eq_mul_inv]
    norm_num
  rw [hvalue]
  exact hunits

variable {round : ℚ → ℚ} {half longest distance j k : ℕ}

namespace KeepsUnits

theorem den_pos (h : KeepsUnits round half) : (0 : ℚ) < 2 * half := by
  exact_mod_cast Nat.mul_pos two_pos h.pos

/-- What so many units leave of 1. -/
theorem one_sub_units (h : KeepsUnits round half) (hsum : j + k = 2 * half) :
    (1 : ℚ) - k / (2 * half) = j / (2 * half) := by
  have hsum' : (j : ℚ) + k = 2 * half := by exact_mod_cast hsum
  rw [eq_div_iff h.den_pos.ne', sub_mul, div_mul_cancel₀ _ h.den_pos.ne']
  linarith

/-- A distance of at most so many units leaves at least the others of likeness. -/
theorem le_alikeBy (h : KeepsUnits round half) (hlongest : 0 < longest) (hsum : j + k = 2 * half)
    (hdistance : distance * (2 * half) ≤ k * longest) :
    (j : ℚ) / (2 * half) ≤ alikeBy round distance longest := by
  have hlongest' : (0 : ℚ) < longest := by exact_mod_cast hlongest
  have hquotient : round (mkRat distance longest) ≤ k / (2 * half) := by
    refine (h.keeps k (by omega)).below ?_
    rw [Rat.mkRat_eq_div, Int.cast_natCast, div_le_div_iff₀ hlongest' h.den_pos]
    exact_mod_cast hdistance
  refine (h.keeps j (by omega)).above ?_
  rw [← h.one_sub_units hsum]
  exact sub_le_sub_left hquotient 1

/-- A distance of at least so many units leaves at most the others of likeness. -/
theorem alikeBy_le (h : KeepsUnits round half) (hlongest : 0 < longest) (hsum : j + k = 2 * half)
    (hdistance : k * longest ≤ distance * (2 * half)) :
    alikeBy round distance longest ≤ j / (2 * half) := by
  have hlongest' : (0 : ℚ) < longest := by exact_mod_cast hlongest
  have hquotient : k / (2 * half) ≤ round (mkRat distance longest) := by
    refine (h.keeps k (by omega)).above ?_
    rw [Rat.mkRat_eq_div, Int.cast_natCast, div_le_div_iff₀ h.den_pos hlongest']
    exact_mod_cast hdistance
  refine (h.keeps j (by omega)).below ?_
  rw [← h.one_sub_units hsum]
  exact sub_le_sub_left hquotient 1

/-- A whole number in units. -/
theorem natCast_eq_units (h : KeepsUnits round half) (n : ℕ) :
    (n : ℚ) = (n * (2 * half) : ℕ) / (2 * half) := by
  push_cast
  exact (mul_div_cancel_right₀ _ h.den_pos.ne').symm

/-- Whole numbers of points are multiples of units. -/
theorem keepsSides_natCast (h : KeepsUnits round half) {n : ℕ} (hn : n ≤ 800) :
    KeepsSides round n := by
  have hunits : n * (2 * half) ≤ 1600 * half := by
    have hmany := Nat.mul_le_mul_right (2 * half) hn
    omega
  rw [h.natCast_eq_units]
  exact_mod_cast h.keeps _ hunits

theorem one_eq_units (h : KeepsUnits round half) : (1 : ℚ) = (2 * half : ℕ) / (2 * half) := by
  have hone := h.natCast_eq_units 1
  rwa [Nat.cast_one, Nat.one_mul] at hone

theorem wordThreshold_eq_units (h : KeepsUnits round half) :
    wordThreshold = (half : ℚ) / (2 * half) := by
  rw [wordThreshold, Rat.mkRat_eq_div, div_eq_div_iff (by norm_num) h.den_pos.ne']
  push_cast
  ring

theorem units_lt_units_iff (h : KeepsUnits round half) :
    (j : ℚ) / (2 * half) < k / (2 * half) ↔ j < k := by
  rw [div_lt_div_iff_of_pos_right h.den_pos]
  exact_mod_cast Iff.rfl

end KeepsUnits

namespace IsFineFor

/-- No more edits are needed than the longer word has characters. -/
theorem alikeBy_nonneg (h : IsFineFor round longest) (hlongest : 0 < longest)
    (hle : distance ≤ longest) : 0 ≤ alikeBy round distance longest := by
  obtain ⟨half, -, hunits⟩ := h
  have hdistance : distance * (2 * half) ≤ 2 * half * longest := by
    rw [Nat.mul_comm (2 * half)]
    exact Nat.mul_le_mul_right _ hle
  have hbound := hunits.le_alikeBy hlongest (Nat.zero_add _) hdistance
  rwa [Nat.cast_zero, zero_div] at hbound

theorem alikeBy_le_one (h : IsFineFor round longest) (hlongest : 0 < longest) (distance : ℕ) :
    alikeBy round distance longest ≤ 1 := by
  obtain ⟨half, -, hunits⟩ := h
  have hdistance : 0 * longest ≤ distance * (2 * half) := by
    rw [Nat.zero_mul]
    exact Nat.zero_le _
  rw [hunits.one_eq_units]
  exact hunits.alikeBy_le hlongest (Nat.add_zero _) hdistance

/-- One edit takes a unit at least. -/
theorem exists_alikeBy_le (h : IsFineFor round longest) (hlongest : 0 < longest)
    (hsome : distance ≠ 0) :
    ∃ half, KeepsUnits round half ∧
      alikeBy round distance longest ≤ (2 * half - 1 : ℕ) / (2 * half) := by
  obtain ⟨half, hhalf, hunits⟩ := h
  have hpos := hunits.pos
  have hdistance : 1 * longest ≤ distance * (2 * half) := by
    have hunit := Nat.mul_le_mul_right (2 * half) (Nat.one_le_iff_ne_zero.mpr hsome)
    omega
  exact ⟨half, hunits, hunits.alikeBy_le hlongest (by omega) hdistance⟩

/-- One edit is told from none. -/
theorem alikeBy_eq_one_iff (h : IsFineFor round longest) (hlongest : 0 < longest) :
    alikeBy round distance longest = 1 ↔ distance = 0 := by
  constructor
  · intro hone
    by_contra hsome
    obtain ⟨half, hunits, hbound⟩ := h.exists_alikeBy_le hlongest hsome
    have hpos := hunits.pos
    rw [hone, hunits.one_eq_units] at hbound
    exact not_lt.mpr hbound (hunits.units_lt_units_iff.mpr (by omega))
  · rintro rfl
    refine le_antisymm (h.alikeBy_le_one hlongest 0) ?_
    obtain ⟨half, -, hunits⟩ := h
    have hdistance : 0 * (2 * half) ≤ 0 * longest := by rw [Nat.zero_mul, Nat.zero_mul]
    rw [hunits.one_eq_units]
    exact hunits.le_alikeBy hlongest (Nat.add_zero _) hdistance

/-- Less than a half of the longest is told from a half. -/
theorem half_lt_alikeBy_iff (h : IsFineFor round longest) (hlongest : 0 < longest) :
    wordThreshold < alikeBy round distance longest ↔ 2 * distance < longest := by
  obtain ⟨half, hhalf, hunits⟩ := h
  rw [hunits.wordThreshold_eq_units]
  constructor
  · intro hlt
    by_contra hmany
    have hdistance : half * longest ≤ distance * (2 * half) := by
      have htwice := Nat.mul_le_mul_left half (not_lt.mp hmany)
      linarith
    -- the one half of the units leaves the other
    have hbound := hunits.alikeBy_le hlongest (Nat.two_mul half).symm hdistance
    exact lt_irrefl _ (hlt.trans_le hbound)
  · intro hfew
    obtain ⟨k, rfl⟩ := Nat.exists_eq_succ_of_ne_zero hunits.pos.ne'
    have hdistance : distance * (2 * (k + 1)) ≤ k * longest := by
      have htwice : (2 * distance + 1) * (k + 1) ≤ longest * (k + 1) :=
        Nat.mul_le_mul_right _ hfew
      have hlong : longest ≤ k + 1 := hhalf
      linarith
    -- one unit less than the half leaves one more
    have hbound := hunits.le_alikeBy (j := k + 2) hlongest (by omega) hdistance
    exact (hunits.units_lt_units_iff.mpr (by omega)).trans_le hbound

/-- Likeness above a half that is not 1 earns from 400 to 799 points. -/
theorem pointsBy_mem (h : IsFineFor round longest) (hlongest : 0 < longest)
    (hhalf : wordThreshold < alikeBy round distance longest) (hsome : distance ≠ 0) :
    400 ≤ pointsBy round 800 (alikeBy round distance longest) ∧
      pointsBy round 800 (alikeBy round distance longest) ≤ 799 := by
  obtain ⟨half, hunits, hbound⟩ := h.exists_alikeBy_le hlongest hsome
  have hpos := hunits.pos
  constructor
  · rw [le_pointsBy_iff (by norm_num)]
    refine (hunits.keepsSides_natCast (by norm_num)).above ?_
    rw [wordThreshold, Rat.mkRat_eq_div] at hhalf
    push_cast at hhalf ⊢
    linarith
  · by_contra hmore
    have hround : ((800 : ℕ) : ℚ) ≤ round (alikeBy round distance longest * (800 : ℕ)) :=
      (le_pointsBy_iff (by norm_num)).mp (not_le.mp hmore)
    -- the unit that is missing from 1 is 800 units on the scale, and one of them is enough
    have hproduct : alikeBy round distance longest * (800 : ℕ) ≤
        (1600 * half - 1 : ℕ) / (2 * half) := by
      have hnat : (2 * half - 1) * 800 ≤ 1600 * half - 1 := by omega
      calc alikeBy round distance longest * (800 : ℕ)
          ≤ (2 * half - 1 : ℕ) / (2 * half) * (800 : ℕ) := by gcongr
        _ = ((2 * half - 1) * 800 : ℕ) / (2 * half) := by
          rw [div_mul_eq_mul_div, Nat.cast_mul]
        _ ≤ (1600 * half - 1 : ℕ) / (2 * half) := by gcongr
    have hbelow := hround.trans ((hunits.keeps _ (Nat.sub_le _ 1)).below hproduct)
    rw [hunits.natCast_eq_units] at hbelow
    exact not_lt.mpr hbelow (hunits.units_lt_units_iff.mpr (by omega))

end IsFineFor

/-! ## Similarity -/

variable {a b target pattern : Text}

/-- The longer length of two words in lower case. -/
def longerLength (a b : Text) : ℕ := max (Text.lower a).length (Text.lower b).length

/-- A word has characters, and so has the longer one of two. -/
theorem longerLength_pos (ha : a ≠ []) : 0 < longerLength a b := by
  have hlower : Text.lower a ≠ [] := mt Text.lower_eq_nil_iff.mp ha
  exact lt_max_of_lt_left (List.length_pos_iff.mpr hlower)

/-- The similarity of words that are not both empty is given by the edits. -/
theorem similarityBy_of_pos (hlong : 0 < longerLength a b) :
    similarityBy round a b =
      alikeBy round (editDistance (Text.lower a) (Text.lower b)) (longerLength a b) :=
  if_neg hlong.ne'

theorem similarityBy_of_zero (hlong : longerLength a b = 0) : similarityBy round a b = 1 :=
  if_pos hlong

theorem similarityBy_comm (a b : Text) : similarityBy round b a = similarityBy round a b := by
  simp only [similarityBy]
  rw [max_comm, editDistance_comm]

/-- What is in lower case is not changed any more. -/
theorem similarityBy_lower (a b : Text) :
    similarityBy round (Text.lower a) (Text.lower b) = similarityBy round a b := by
  simp only [similarityBy, Text.lower_lower]

/-- **What rounding leaves of a similarity**: the bounds, and which words are equal. -/
theorem IsFineFor.isSimilarity (h : IsFineFor round (longerLength a b)) :
    IsSimilarity (similarityBy round) a b := by
  rcases Nat.eq_zero_or_pos (longerLength a b) with hzero | hlong
  · have hnone : Text.lower a = [] ∧ Text.lower b = [] := by
      rw [longerLength, Nat.max_eq_zero_iff] at hzero
      exact hzero.imp List.length_eq_zero_iff.mp List.length_eq_zero_iff.mp
    have hone : similarityBy round a b = 1 := similarityBy_of_zero hzero
    refine ⟨?_, hone.le, similarityBy_comm a b, ?_⟩
    · rw [hone]
      exact zero_le_one
    · rw [hnone.1, hnone.2]
      exact iff_of_true hone rfl
  · have halike : similarityBy round a b = _ := similarityBy_of_pos hlong
    refine ⟨?_, ?_, similarityBy_comm a b, ?_⟩
    · rw [halike]
      exact h.alikeBy_nonneg hlong (editDistance_le_max _ _)
    · rw [halike]
      exact h.alikeBy_le_one hlong _
    · rw [halike, h.alikeBy_eq_one_iff hlong, editDistance_eq_zero_iff]

/-! ## Scores -/

/-- A score is tiered if it is that of the first tier whose condition holds. -/
theorem IsTiered.of_cases {score : ℕ}
    (h : target = pattern ∧ score = 1000 ∨
      target ≠ pattern ∧ (AreAlike target pattern ∧ 400 ≤ score ∧ score ≤ 799 ∨
        ¬AreAlike target pattern ∧ (pattern <:+: target ∧ score = 300 ∨
          ¬pattern <:+: target ∧ (pattern.Sublist target ∧ score = 100 ∨
            ¬pattern.Sublist target ∧ score = 0)))) :
    IsTiered target pattern score := by
  rcases h with ⟨heq, rfl⟩ | ⟨hne, ⟨halike, hleast, hmost⟩ | ⟨hunlike, ⟨hpart, rfl⟩ |
    ⟨hapart, ⟨hscattered, rfl⟩ | ⟨hmissing, rfl⟩⟩⟩⟩
  · constructor <;> simp [heq]
  · constructor <;> simp [hne, halike] <;> omega
  · constructor <;> simp [hne, hunlike, hpart]
  · constructor <;> simp [hne, hunlike, hapart, hscattered]
  · constructor <;> simp [hne, hunlike, hapart, hmissing]

/-- **Scores are tiered**, if the arithmetic is fine enough for the words. The cases are those of
the score, in its order, and the one that asks for the similarity asks for the edits instead. -/
theorem IsFineFor.isTiered (h : IsFineFor round (longerLength target pattern))
    (htarget : target ≠ []) (hpattern : pattern ≠ []) :
    IsTiered (Text.lower target) (Text.lower pattern) (wordScoreBy round target pattern) := by
  have hlong : 0 < longerLength target pattern := longerLength_pos htarget
  have hsimilarity : similarityBy round (Text.lower target) (Text.lower pattern) =
      alikeBy round (editDistance (Text.lower target) (Text.lower pattern))
        (longerLength target pattern) := by
    rw [similarityBy_lower, similarityBy_of_pos hlong]
  have halike : wordThreshold < similarityBy round (Text.lower target) (Text.lower pattern) ↔
      AreAlike (Text.lower target) (Text.lower pattern) := by
    rw [hsimilarity, h.half_lt_alikeBy_iff hlong, areAlike_iff]
    rfl
  have hwords : (target.isEmpty || pattern.isEmpty) = false := by simp [htarget, hpattern]
  refine .of_cases ?_
  rw [wordScoreBy, hwords]
  simp only [Bool.false_eq_true, if_false]
  by_cases hequal : Text.lower target = Text.lower pattern
  · exact Or.inl ⟨hequal, if_pos hequal⟩
  refine Or.inr ⟨hequal, ?_⟩
  rw [if_neg hequal]
  by_cases hlike : AreAlike (Text.lower target) (Text.lower pattern)
  · left
    have habove := halike.mpr hlike
    -- Words that are alike but not equal are at least one edit apart.
    have hsome : editDistance (Text.lower target) (Text.lower pattern) ≠ 0 :=
      mt editDistance_eq_zero_iff.mp hequal
    rw [if_pos habove]
    rw [hsimilarity] at habove ⊢
    exact ⟨hlike, h.pointsBy_mem hlong habove hsome⟩
  refine Or.inr ⟨hlike, ?_⟩
  rw [if_neg (mt halike.mp hlike)]
  by_cases hpart : Text.lower pattern <:+: Text.lower target
  · exact Or.inl ⟨hpart, if_pos (Text.hasPart_iff.mpr hpart)⟩
  refine Or.inr ⟨hpart, ?_⟩
  rw [if_neg (mt Text.hasPart_iff.mp hpart)]
  by_cases hscattered : (Text.lower pattern).Sublist (Text.lower target)
  · exact Or.inl ⟨hscattered, if_pos (isSubsequence_iff_sublist.mpr hscattered)⟩
  · exact Or.inr ⟨hscattered, if_neg (mt isSubsequence_iff_sublist.mp hscattered)⟩

/-- **Word scores are tiered.** In exact arithmetic the similarity of two words lies between 0 and
1, is the same both ways, and is 1 exactly if they are equal in lower case; and the score of two
words that are not empty tells the first of the tiers whose condition holds: 1000 for equal ones,
from 400 to 799 if twice the edit distance is less than the longer length, 300 for a part, 100 for
scattered characters, and 0. All of this holds as well of the similarity and the score that are
computed, for words of up to `2 ^ 42` characters in lower case. -/
theorem word_scores_are_tiered (a b : Text) :
    IsSimilarity (similarityBy id) a b ∧
    (a ≠ [] → b ≠ [] → IsTiered (Text.lower a) (Text.lower b) (wordScoreBy id a b)) ∧
    ((Text.lower a).length ≤ 2 ^ 42 → (Text.lower b).length ≤ 2 ^ 42 →
      IsSimilarity similarity a b ∧
      (a ≠ [] → b ≠ [] → IsTiered (Text.lower a) (Text.lower b) (wordScore a b))) := by
  have hexact : IsFineFor id (longerLength a b) := isFineFor_id _
  refine ⟨hexact.isSimilarity, hexact.isTiered, fun ha hb => ?_⟩
  have hfine : IsFineFor rounded (longerLength a b) := isFineFor_rounded (max_le ha hb)
  rw [← similarityBy_rounded, ← wordScoreBy_rounded]
  exact ⟨hfine.isSimilarity, hfine.isTiered⟩

/-- Three edits, less than half of seven characters, in mixed case. -/
theorem word_scores_are_tiered_of_kitten :
    let a := "Kitten".toList
    let b := "SITTING".toList
    a ≠ [] ∧ b ≠ [] ∧ (Text.lower a).length ≤ 2 ^ 42 ∧ (Text.lower b).length ≤ 2 ^ 42 ∧
      IsTiered "kitten".toList "sitting".toList (wordScoreBy id a b) ∧
      IsTiered "kitten".toList "sitting".toList (wordScore a b) := by
  intro a b
  have ha : a ≠ [] := by decide
  have hb : b ≠ [] := by decide
  have hlower : Text.lower a = "kitten".toList ∧ Text.lower b = "sitting".toList := by decide
  have hshort : (Text.lower a).length ≤ 2 ^ 42 ∧ (Text.lower b).length ≤ 2 ^ 42 := by
    rw [hlower.1, hlower.2]
    decide
  obtain ⟨-, hexact, hcomputed⟩ := word_scores_are_tiered a b
  rw [← hlower.1, ← hlower.2]
  exact ⟨ha, hb, hshort.1, hshort.2, hexact ha hb, (hcomputed hshort.1 hshort.2).2 ha hb⟩

end RouteAtlas
