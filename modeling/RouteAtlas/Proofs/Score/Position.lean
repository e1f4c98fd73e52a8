import RouteAtlas.Proofs.Score.PathTiers

/-!
# What a place in the path is worth

Both tiers that look at segments count later ones more, each in its own way.

In a window each segment is worth 10 points for its place and each one in front of it, and nothing
takes from that. So a window that is moved on by some segments scores 10 points more for each of
them and each segment of the pattern (`FitsAt.windowScoreAt_moved`), and a path with segments put in
front of it scores that much more at least (`windows_count_more_later`). It may be still more, since
the segments in front may hold a better window.

A single segment has a bonus: 150 at the end of the path, 75 next to the end, and 5 points for each
segment in front anywhere else. The last one of these grows without a limit. So the end of a path is
favoured only as long as no segment that counts lies so far back that its bonus has overtaken the
fixed one, which is from segment 31 on for the last segment and from segment 16 on for the one next
to it, counted from 0 (`fallback_favours_endings`). Behind that, a segment in the middle of a path
scores more than one at its end that is just as much alike (`fallback_of_long_paths`).
-/

namespace RouteAtlas

/-! ## Windows -/

section Window

variable {target longer pattern : List Text} {offset later : ℕ}

/-- An alignment does not look behind the segments that the pattern lies on. -/
theorem alignmentScore?_take (position : ℕ) (target pattern : List Text) :
    alignmentScore? position (target.take pattern.length) pattern =
      alignmentScore? position target pattern := by
  fun_induction alignmentScore? position target pattern with
  | case1 position target => simp [alignmentScore?]
  | case2 position p pattern => simp [alignmentScore?]
  | case3 position t target p pattern alike hlt =>
    rw [List.length_cons, List.take_succ_cons, alignmentScore?, if_pos hlt]
  | case4 position t target p pattern alike hle ih =>
    rw [List.length_cons, List.take_succ_cons, alignmentScore?, if_neg hle, ih]

/-- An alignment that is moved on scores 10 points more for each segment of the pattern and each
segment it is moved by. -/
theorem alignmentScore?_add (shift position : ℕ) (target pattern : List Text) :
    alignmentScore? (position + shift) target pattern =
      (alignmentScore? position target pattern).map (· + 10 * shift * pattern.length) := by
  fun_induction alignmentScore? position target pattern with
  | case1 position target => simp [alignmentScore?]
  | case2 position p pattern => rfl
  | case3 position t target p pattern alike hlt =>
    rw [alignmentScore?, if_pos hlt]
    rfl
  | case4 position t target p pattern alike hle ih =>
    rw [alignmentScore?, if_neg hle, Nat.add_right_comm position shift 1, ih, Option.map_map,
      Option.map_map, List.length_cons]
    congr 1
    funext score
    show points 100 alike + 10 * (position + 1 + shift) + (score + 10 * shift * pattern.length) =
      points 100 alike + 10 * (position + 1) + score + 10 * shift * (pattern.length + 1)
    ring

/-- The same alignment later in a path, be it the same path or another one. -/
theorem alignmentScore?_moved (hlater : offset ≤ later)
    (hsame : (longer.drop later).take pattern.length = (target.drop offset).take pattern.length) :
    alignmentScore? later (longer.drop later) pattern =
      (alignmentScore? offset (target.drop offset) pattern).map
        (· + 10 * (later - offset) * pattern.length) := by
  rw [← alignmentScore?_take later, hsame, alignmentScore?_take]
  have hadd := alignmentScore?_add (later - offset) offset (target.drop offset) pattern
  rwa [Nat.add_sub_cancel' hlater] at hadd

theorem FitsAt.exists_alignmentScore? (h : FitsAt target pattern offset) :
    ∃ score, alignmentScore? offset (target.drop offset) pattern = some score :=
  Option.isSome_iff_exists.mp (isSome_alignmentScore?_iff.mpr h)

/-- **The same window later in a path** scores more by its later place. If the first one has the
bonus for the end of its path, the later one must have it, too. -/
theorem FitsAt.windowScoreAt_moved (h : FitsAt target pattern offset) (hlater : offset ≤ later)
    (hsame : (longer.drop later).take pattern.length = (target.drop offset).take pattern.length)
    (hend : offset + pattern.length = target.length → later + pattern.length = longer.length) :
    windowScoreAt target pattern offset + 10 * (later - offset) * pattern.length ≤
      windowScoreAt longer pattern later := by
  obtain ⟨score, hscore⟩ := h.exists_alignmentScore?
  have hmoved := alignmentScore?_moved hlater hsame
  rw [hscore, Option.map_some] at hmoved
  rw [windowScoreAt, windowScoreAt, hscore, hmoved]
  dsimp only
  split
  next hlast =>
    rw [if_pos (hend hlast)]
    omega
  next => split <;> omega

/-- What fits on a path fits on it behind other segments as well, at the same distance from the
end, and scores more by its later place. -/
theorem FitsAt.windowScoreAt_append (h : FitsAt target pattern offset) (front : List Text) :
    FitsAt (front ++ target) pattern (front.length + offset) ∧
      windowScoreAt (front ++ target) pattern (front.length + offset) =
        windowScoreAt target pattern offset + 10 * front.length * pattern.length := by
  have hdrop : (front ++ target).drop (front.length + offset) = target.drop offset :=
    List.drop_length_add_append offset
  have hend : front.length + offset + pattern.length = (front ++ target).length ↔
      offset + pattern.length = target.length := by
    rw [List.length_append]
    omega
  obtain ⟨score, hscore⟩ := h.exists_alignmentScore?
  constructor
  · rw [FitsAt, hdrop]
    exact h
  · have hmoved := alignmentScore?_add front.length offset (target.drop offset) pattern
    rw [hscore, Option.map_some, Nat.add_comm offset] at hmoved
    rw [windowScoreAt, windowScoreAt, hdrop, hscore, hmoved]
    simp only [hend]
    split <;> omega

/-- The window on the first segment is worth 20 points more behind two others. -/
example :
    windowScoreAt ["users".toList, "x".toList] ["user".toList] 0 = 90 ∧
      windowScoreAt ["api".toList, "v1".toList, "users".toList, "x".toList] ["user".toList] 2 =
        110 := by
  decide +kernel

/-- **Later windows score more.** Segments put in front of a path on which a pattern fits raise the
score of its windows by 10 points at least for each of them and each segment of the pattern. Each
window that fits scores exactly that much more; and of two windows of one path on the same segments,
the later one scores 10 points more for each segment of the pattern and each segment between. -/
theorem windows_count_more_later (front : List Text) (h : 0 < windowScore target pattern) :
    windowScore target pattern + 10 * front.length * pattern.length ≤
        windowScore (front ++ target) pattern ∧
      (∀ offset, FitsAt target pattern offset →
        windowScoreAt (front ++ target) pattern (front.length + offset) =
          windowScoreAt target pattern offset + 10 * front.length * pattern.length) ∧
      ∀ offset later, offset ≤ later → FitsAt target pattern offset →
        (target.drop later).take pattern.length = (target.drop offset).take pattern.length →
        windowScoreAt target pattern offset + 10 * (later - offset) * pattern.length ≤
          windowScoreAt target pattern later := by
  obtain ⟨hpattern, best, hfits, hbest⟩ := exists_windowScore_eq h
  refine ⟨?_, fun offset hoffset => (hoffset.windowScoreAt_append front).2, ?_⟩
  · -- the best window of the path is one of the windows of the longer path
    obtain ⟨hfits', hscore⟩ := hfits.windowScoreAt_append front
    rw [hbest, ← hscore]
    exact hfits'.windowScoreAt_le hpattern
  · intro offset later hlater hoffset hsame
    refine hoffset.windowScoreAt_moved hlater hsame fun hlast => ?_
    -- no window on so many segments begins behind the one that ends at the last segment
    have hpos := List.length_pos_iff.mpr hpattern
    have hlength := congrArg List.length hsame
    rw [List.length_take, List.length_take, List.length_drop, List.length_drop] at hlength
    omega

/-- A window in the middle of a path, which has it twice. -/
theorem windows_count_more_later_users :
    let path := ["users".toList, "users".toList, "x".toList]
    let query := ["user".toList]
    let front := ["api".toList, "v1".toList]
    (0 < windowScore path query ∧ FitsAt path query 0 ∧
      (path.drop 1).take query.length = (path.drop 0).take query.length) ∧
    (windowScore path query = 100 ∧ 120 ≤ windowScore (front ++ path) query) ∧
      windowScoreAt (front ++ path) query 2 = windowScoreAt path query 0 + 20 ∧
      windowScoreAt path query 0 + 10 ≤ windowScoreAt path query 1 := by
  intro path query front
  have hscores : 0 < windowScore path query := by decide +kernel
  have hfits : FitsAt path query 0 := by decide +kernel
  have hsame : (path.drop 1).take query.length = (path.drop 0).take query.length := rfl
  have hbest : windowScore path query = 100 := by decide +kernel
  obtain ⟨hlonger, hmoved, hlater⟩ := windows_count_more_later front hscores
  refine ⟨⟨hscores, hfits, hsame⟩, ⟨hbest, ?_⟩, hmoved 0 hfits, hlater 0 1 (by decide) hfits hsame⟩
  rw [hbest] at hlonger
  exact hlonger

end Window

/-! ## Single segments -/

section Fallback

variable {target pattern : List Text} {best segment needle : Text} {count place position : ℕ}

/-- A segment that is more alike and has a larger bonus scores no less. -/
theorem segmentScore_le_segmentScore
    (h : fallbackThreshold < similarity segment needle →
      similarity segment needle ≤ similarity best needle ∧
        fallbackBonus count position ≤ fallbackBonus count place) :
    segmentScore count needle segment position ≤ segmentScore count needle best place := by
  by_cases halike : fallbackThreshold < similarity segment needle
  · obtain ⟨hlike, hbonus⟩ := h halike
    rw [segmentScore, segmentScore, if_neg (not_le.mpr halike),
      if_neg (not_le.mpr (halike.trans_le hlike))]
    exact Nat.add_le_add (points_mono 50 hlike) hbonus
  · rw [segmentScore, if_pos (not_lt.mp halike)]
    exact Nat.zero_le _

/-- Of segments that are just as much alike the one with the larger bonus scores more. -/
theorem segmentScore_lt_segmentScore (halike : fallbackThreshold < similarity best needle)
    (hsame : similarity segment needle = similarity best needle)
    (hbonus : fallbackBonus count place < fallbackBonus count position) :
    segmentScore count needle best place < segmentScore count needle segment position := by
  rw [segmentScore, segmentScore, hsame, if_neg (not_le.mpr halike), if_neg (not_le.mpr halike)]
  exact Nat.add_lt_add_left hbonus _

theorem fallbackBonus_inner (h : position + 2 < count) :
    fallbackBonus count position = 5 * position := by
  rw [fallbackBonus, if_neg (by omega), if_neg (by omega)]

/-- A segment with a fixed bonus decides the score if no other one that counts is more alike, as
long as those in front of the last two lie in front of the place where their bonus overtakes the
fixed one. What is just as much alike and lies there scores more. -/
theorem fallbackScore_of_best {limit : ℕ} (hneedle : pattern.getLast? = some needle)
    (hbest : target[place]? = some best) (halike : fallbackThreshold < similarity best needle)
    (hmost : ∀ position segment, target[position]? = some segment →
      fallbackThreshold < similarity segment needle →
      similarity segment needle ≤ similarity best needle ∧
        (target.length ≤ position + 2 →
          fallbackBonus target.length position ≤ fallbackBonus target.length place))
    (hlimit : fallbackBonus target.length place + 5 = 5 * limit) :
    ((∀ position, AlikeAt target pattern position → position + 2 < target.length →
        position < limit) →
      fallbackScore target pattern = segmentScore target.length needle best place) ∧
    ∀ position segment, limit ≤ position → position + 2 < target.length →
      target[position]? = some segment → similarity segment needle = similarity best needle →
      segmentScore target.length needle best place < fallbackScore target pattern := by
  constructor
  · intro hearly
    refine le_antisymm ?_ (segmentScore_le_fallbackScore hneedle hbest)
    rw [fallbackScore_le_iff hneedle]
    intro position segment hsegment
    refine segmentScore_le_segmentScore fun hcounts => ?_
    obtain ⟨hlike, hending⟩ := hmost position segment hsegment hcounts
    refine ⟨hlike, ?_⟩
    by_cases hinner : position + 2 < target.length
    · have hplace := hearly position ⟨segment, hsegment, needle, hneedle, hcounts⟩ hinner
      rw [fallbackBonus_inner hinner]
      omega
    · exact hending (not_lt.mp hinner)
  · intro position segment hlate hinner hsegment hsame
    have hbonus : fallbackBonus target.length place < fallbackBonus target.length position := by
      rw [fallbackBonus_inner hinner]
      omega
    exact (segmentScore_lt_segmentScore halike hsame hbonus).trans_le
      (segmentScore_le_fallbackScore hneedle hsegment)

/-- **The end of a path is favoured** in the tier of single segments as long as the bonus of no
other segment has overtaken the fixed ones. If the last segment counts and none is more alike, the
score is its own, unless a segment that counts lies at 31 or behind, and in front of the last two;
if such a segment is just as much alike, the score is more. If the last segment does not count, but
the one next to it does and none in front is more alike, the same is true of that one and of
segments at 16 or behind. -/
theorem fallback_favours_endings (hneedle : pattern.getLast? = some needle) :
    (∀ front last, fallbackThreshold < similarity last needle →
      (∀ segment ∈ front, similarity segment needle ≤ similarity last needle) →
      let path := front ++ [last]
      let own := segmentScore path.length needle last front.length
      ((∀ position, AlikeAt path pattern position → position + 2 < path.length → position < 31) →
        fallbackScore path pattern = own) ∧
      ∀ position segment, 31 ≤ position → position + 2 < path.length →
        path[position]? = some segment → similarity segment needle = similarity last needle →
        own < fallbackScore path pattern) ∧
    ∀ front second last, similarity last needle ≤ fallbackThreshold →
      fallbackThreshold < similarity second needle →
      (∀ segment ∈ front, similarity segment needle ≤ similarity second needle) →
      let path := front ++ [second, last]
      let own := segmentScore path.length needle second front.length
      ((∀ position, AlikeAt path pattern position → position + 2 < path.length → position < 16) →
        fallbackScore path pattern = own) ∧
      ∀ position segment, 16 ≤ position → position + 2 < path.length →
        path[position]? = some segment → similarity segment needle = similarity second needle →
        own < fallbackScore path pattern := by
  constructor
  · intro front last halike hmost path own
    have hcount : path.length = front.length + 1 := List.length_append
    have hplace : path[front.length]? = some last := List.getElem?_concat_length
    have hbonus : fallbackBonus path.length front.length = 150 := if_pos hcount.symm
    refine fallbackScore_of_best hneedle hplace halike (fun position segment hsegment _ => ?_)
      (by rw [hbonus])
    constructor
    · rcases List.mem_append.mp (List.mem_of_getElem? hsegment) with hfront | hlast
      · exact hmost segment hfront
      · rw [List.mem_singleton.mp hlast]
    · intro hending
      -- no bonus of the last two is larger than that of the last
      obtain ⟨hinside, -⟩ := List.getElem?_eq_some_iff.mp hsegment
      rw [hbonus, fallbackBonus]
      split_ifs <;> omega
  · intro front second last hnot halike hmost path own
    have hcount : path.length = front.length + 2 := List.length_append
    have hplace : path[front.length]? = some second := by simp [path]
    have hlast : path[front.length + 1]? = some last := by simp [path]
    have hbonus : fallbackBonus path.length front.length = 75 := by
      rw [hcount, fallbackBonus, if_neg (by omega), if_pos rfl]
    refine fallbackScore_of_best hneedle hplace halike (fun position segment hsegment hcounts => ?_)
      (by rw [hbonus])
    have hother : segment ≠ last := by
      rintro rfl
      exact absurd hcounts (not_lt.mpr hnot)
    constructor
    · rcases List.mem_append.mp (List.mem_of_getElem? hsegment) with hfront | hending
      · exact hmost segment hfront
      · rcases List.mem_pair.mp hending with rfl | rfl
        · exact le_rfl
        · exact absurd rfl hother
    · intro hending
      -- the last segment does not count, so that only the one next to it is left
      obtain ⟨hinside, -⟩ := List.getElem?_eq_some_iff.mp hsegment
      have hne : position ≠ front.length + 1 := by
        rintro rfl
        exact hother (Option.some.inj (hsegment.symm.trans hlast))
      have heq : position = front.length := by omega
      rw [heq]

/-- Two short paths that end with the segment that counts, or have it next to the end. -/
theorem fallback_favours_endings_of_usersets :
    let query := ["users".toList]
    let segment := "usersets".toList
    let front := ["api".toList, segment]
    let other := "x".toList
    (query.getLast? = some "users".toList ∧
      fallbackThreshold < similarity segment "users".toList ∧
      similarity other "users".toList ≤ fallbackThreshold ∧
      (∀ segment' ∈ front, similarity segment' "users".toList ≤
        similarity segment "users".toList)) ∧
    fallbackScore (front ++ [segment]) query = 181 ∧
      fallbackScore (front ++ [segment, other]) query = 106 := by
  intro query segment front other
  have hneedle : query.getLast? = some "users".toList := rfl
  have halike : fallbackThreshold < similarity segment "users".toList := by decide +kernel
  have hnot : similarity other "users".toList ≤ fallbackThreshold := by decide +kernel
  have hmost : ∀ segment' ∈ front, similarity segment' "users".toList ≤
      similarity segment "users".toList := by decide +kernel
  obtain ⟨hlast, hsecond⟩ := fallback_favours_endings hneedle
  refine ⟨⟨hneedle, halike, hnot, hmost⟩, ?_, ?_⟩
  · rw [(hlast front segment halike hmost).1 fun position _ hinner => by
      change position + 2 < 3 at hinner
      omega]
    decide +kernel
  · rw [(hsecond front segment other hnot halike hmost).1 fun position _ hinner => by
      change position + 2 < 4 at hinner
      omega]
    decide +kernel

/-- In a path of 34 equal segments the last one is worth less than one in the middle, and so is the
one next to the last of 19 segments, 18 of which are equal. -/
theorem fallback_of_long_paths :
    let query := ["users".toList]
    let segment := "usersets".toList
    let other := "x".toList
    let equal := List.replicate 34 segment
    let unequal := List.replicate 18 segment ++ [other]
    (fallbackThreshold < similarity segment "users".toList ∧
      similarity other "users".toList ≤ fallbackThreshold) ∧
    (segmentScore equal.length "users".toList segment 33 = 181 ∧
      fallbackScore equal query = 186 ∧
      pathHit (equal.flatMap ('/' :: ·)) "users".toList = (.fallback, 186)) ∧
    segmentScore unequal.length "users".toList segment 17 = 106 ∧
      fallbackScore unequal query = 111 ∧
      pathHit (unequal.flatMap ('/' :: ·)) "users".toList = (.fallback, 111) := by
  decide +kernel

end Fallback

end RouteAtlas
