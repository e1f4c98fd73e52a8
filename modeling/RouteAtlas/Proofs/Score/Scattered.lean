import Mathlib.Data.List.Forall2
import Mathlib.Order.Nat
import Mathlib.Tactic.ByContra
import RouteAtlas.Score.Word

/-!
# Where scattered characters are found

What the search for scattered characters finds are the sublists of the target
(`isSubsequence_iff_sublist`). Here it is also said where it finds them.

The search reads the target once, from its beginning to its end. For each character of the pattern
it reads on until it finds one, and what it has read is gone for the characters after it
(`nextPlace?`, `takenPlaces?`). So each character is taken at its first place behind the one before,
and no choice is ever taken back.

Nothing is missed by that. Compare the search with any other choice of places, one character of the
pattern after the other. As long as the search has read no further than the other choice, it finds
the next character, and no later than the other choice has it (`exists_nextPlace?`); so it has still
read no further behind it. Hence the search takes a place for each character, and none of them is
behind that of another choice (`exists_takenPlaces?`).
-/

namespace RouteAtlas

variable {target pattern : Text} {start place : Nat} {places other : List Nat} {c : Char}

/-! ## Sublists -/

theorem isSubsequence_eq_isSublist (target pattern : Text) :
    isSubsequence target pattern = pattern.isSublist target := by
  fun_induction isSubsequence target pattern with
  | case1 target => cases target <;> rfl
  | case2 p pattern => rfl
  | case3 target p pattern ih => rw [ih, List.isSublist, if_pos (beq_self_eq_true p)]
  | case4 t target p pattern hne ih =>
    rw [ih, List.isSublist, if_neg (by simpa using Ne.symm hne)]

/-- Characters are found in the target if they stand there in order. -/
theorem isSubsequence_iff_sublist {target pattern : Text} :
    isSubsequence target pattern = true ↔ pattern.Sublist target := by
  rw [isSubsequence_eq_isSublist]
  exact List.isSublist_iff_sublist

/-! ## Reading on -/

/-- The first place of a character in the part of a text that is not read yet. -/
def nextPlace? (target : Text) (start : Nat) (c : Char) : Option Nat :=
  ((target.drop start).idxOf? c).map (start + ·)

/-- The places that are taken for the characters of a pattern, each looked for in what the one
before has left unread; none if a character is not found any more. -/
def takenPlaces? (target : Text) : Nat → Text → Option (List Nat)
  | _, [] => some []
  | start, c :: pattern =>
    (nextPlace? target start c).bind fun place =>
      (takenPlaces? target (place + 1) pattern).map (place :: ·)

/-- **Each character is taken at its first place** behind the one before. -/
theorem nextPlace?_eq_some_iff :
    nextPlace? target start c = some place ↔
      IsLeast {i | start ≤ i ∧ target[i]? = some c} place := by
  rw [nextPlace?, Option.map_eq_some_iff]
  constructor
  · rintro ⟨i, hi, rfl⟩
    obtain ⟨hlt, hat, hfirst⟩ := List.idxOf?_eq_some_iff.mp hi
    refine ⟨⟨Nat.le_add_right start i, ?_⟩, ?_⟩
    · -- It is there,
      rw [← List.getElem?_drop, List.getElem?_eq_getElem hlt, hat]
    · -- and not earlier.
      rintro _ ⟨hstart, hc⟩
      obtain ⟨j, rfl⟩ := Nat.exists_eq_add_of_le hstart
      rw [← List.getElem?_drop, List.getElem?_eq_some_iff] at hc
      by_contra hbefore
      exact hfirst j (by omega) hc.2
  · rintro ⟨⟨hstart, hc⟩, hleast⟩
    obtain ⟨i, rfl⟩ := Nat.exists_eq_add_of_le hstart
    rw [← List.getElem?_drop, List.getElem?_eq_some_iff] at hc
    obtain ⟨hlt, hat⟩ := hc
    refine ⟨i, List.idxOf?_eq_some_iff.mpr ⟨hlt, hat, fun j hj hjat => ?_⟩, rfl⟩
    have hj : target[start + j]? = some c := by
      rw [← List.getElem?_drop, List.getElem?_eq_getElem (hj.trans hlt), hjat]
    have hle : start + i ≤ start + j := hleast ⟨Nat.le_add_right start j, hj⟩
    omega

/-- Whoever has not read past a place of the character finds it there at the latest. -/
theorem exists_nextPlace? {later : Nat} (hstart : start ≤ later) (hc : target[later]? = some c) :
    ∃ place, nextPlace? target start c = some place ∧ place ≤ later := by
  have hsome : ∃ i, start ≤ i ∧ target[i]? = some c := ⟨later, hstart, hc⟩
  classical
  exact ⟨Nat.find hsome, nextPlace?_eq_some_iff.mpr (Nat.isLeast_find hsome),
    Nat.find_min' hsome ⟨hstart, hc⟩⟩

/-! ## The search as reading on -/

/-- The rest of a pattern is searched for behind the first place of its first character. -/
theorem isSubsequence_cons (unread : Text) (c : Char) (pattern : Text) :
    isSubsequence unread (c :: pattern) =
      (unread.idxOf? c).any fun i => isSubsequence (unread.drop (i + 1)) pattern := by
  induction unread with
  | nil => rfl
  | cons t unread ih =>
    rw [isSubsequence, List.idxOf?_cons]
    by_cases hfound : t = c
    · rw [if_pos hfound, if_pos (beq_iff_eq.mpr hfound)]
      rfl
    · rw [if_neg hfound, if_neg (mt beq_iff_eq.mp hfound), ih, Option.any_map]
      rfl

/-- The search succeeds if it takes a place for each character. -/
theorem isSubsequence_drop (target : Text) (start : Nat) (pattern : Text) :
    isSubsequence (target.drop start) pattern = (takenPlaces? target start pattern).isSome := by
  induction pattern generalizing start with
  | nil => cases target.drop start <;> rfl
  | cons c pattern ih =>
    rw [isSubsequence_cons, takenPlaces?, nextPlace?, Option.isSome_bind, Option.any_map]
    congr 1
    funext i
    rw [List.drop_drop, Option.isSome_map, ← ih, Nat.add_assoc]

/-! ## Choices of places -/

/-- The characters of a pattern stand in the target at these places, one behind the other. -/
structure IsSpelledAt (target pattern : Text) (places : List Nat) : Prop where
  increasing : places.Pairwise (· < ·)
  spelled : places.map (target[·]?) = pattern.map some

/-- No other choice has an earlier place for any of the characters. -/
structure IsLeftmost (target pattern : Text) (places : List Nat) : Prop where
  spelled : IsSpelledAt target pattern places
  le_other : ∀ other, IsSpelledAt target pattern other → List.Forall₂ (· ≤ ·) places other

theorem isSpelledAt_nil_iff : IsSpelledAt target [] places ↔ places = [] := by
  constructor
  · intro h
    exact List.map_eq_nil_iff.mp h.spelled
  · rintro rfl
    exact ⟨List.Pairwise.nil, rfl⟩

/-- The first character has a place before those of the others. -/
theorem isSpelledAt_cons_iff :
    IsSpelledAt target (c :: pattern) places ↔
      ∃ place others, places = place :: others ∧ target[place]? = some c ∧
        (∀ i ∈ others, place < i) ∧ IsSpelledAt target pattern others := by
  constructor
  · rintro ⟨hincreasing, hspelled⟩
    obtain ⟨place, others, rfl, hc, hothers⟩ := List.map_eq_cons_iff.mp hspelled
    obtain ⟨hbehind, hincreasing⟩ := List.pairwise_cons.mp hincreasing
    exact ⟨place, others, rfl, hc, hbehind, hincreasing, hothers⟩
  · rintro ⟨place, others, rfl, hc, hbehind, hincreasing, hothers⟩
    refine ⟨List.pairwise_cons.mpr ⟨hbehind, hincreasing⟩, ?_⟩
    rw [List.map_cons, List.map_cons, hc, hothers]

/-- What is taken spells the pattern, in what was unread. -/
theorem isSpelledAt_of_takenPlaces? (h : takenPlaces? target start pattern = some places) :
    IsSpelledAt target pattern places ∧ ∀ i ∈ places, start ≤ i := by
  induction pattern generalizing start places with
  | nil =>
    obtain rfl : [] = places := Option.some.inj h
    exact ⟨isSpelledAt_nil_iff.mpr rfl, fun i hi => absurd hi List.not_mem_nil⟩
  | cons c pattern ih =>
    rw [takenPlaces?, Option.bind_eq_some_iff] at h
    obtain ⟨place, hplace, hrest⟩ := h
    obtain ⟨others, hothers, rfl⟩ := Option.map_eq_some_iff.mp hrest
    obtain ⟨⟨hstart, hc⟩, -⟩ := nextPlace?_eq_some_iff.mp hplace
    obtain ⟨hspelled, hbehind⟩ := ih hothers
    refine ⟨isSpelledAt_cons_iff.mpr ⟨place, others, rfl, hc, hbehind, hspelled⟩, ?_⟩
    intro i hi
    rcases List.mem_cons.mp hi with rfl | hi
    · exact hstart
    · exact hstart.trans (Nat.le_of_succ_le (hbehind i hi))

/-- **The search is never behind another choice.** If the pattern is spelled in what is unread, the
search takes a place for each character, and none of them behind the other one. -/
theorem exists_takenPlaces? (h : IsSpelledAt target pattern other)
    (hunread : ∀ i ∈ other, start ≤ i) :
    ∃ places, takenPlaces? target start pattern = some places ∧
      List.Forall₂ (· ≤ ·) places other := by
  -- along the pattern, the search having read no further than the other choice
  induction pattern generalizing start other with
  | nil =>
    obtain rfl := isSpelledAt_nil_iff.mp h
    exact ⟨[], rfl, List.Forall₂.nil⟩
  | cons c pattern ih =>
    obtain ⟨later, others, rfl, hc, hbehind, hothers⟩ := isSpelledAt_cons_iff.mp h
    obtain ⟨place, hplace, hle⟩ := exists_nextPlace? (hunread later List.mem_cons_self) hc
    have hunread' : ∀ i ∈ others, place + 1 ≤ i := fun i hi => hle.trans_lt (hbehind i hi)
    obtain ⟨places, hplaces, hall⟩ := ih hothers hunread'
    refine ⟨place :: places, ?_, List.Forall₂.cons hle hall⟩
    rw [takenPlaces?, hplace, Option.bind_some, hplaces, Option.map_some]

/-- What the search takes is not behind any other choice. -/
theorem isLeftmost_of_takenPlaces? (h : takenPlaces? target 0 pattern = some places) :
    IsLeftmost target pattern places := by
  refine ⟨(isSpelledAt_of_takenPlaces? h).1, fun other hother => ?_⟩
  obtain ⟨places', hplaces', hall⟩ := exists_takenPlaces? hother fun i _ => Nat.zero_le i
  obtain rfl : places = places' := Option.some.inj (h.symm.trans hplaces')
  exact hall

/-- **Scattered characters are found.** The search succeeds exactly if the pattern is a sublist of
the target; that is, if there are places in the target, each behind the one before, that spell it.
The places that are taken are then such a choice, and no other one has an earlier place for any
of the characters. -/
theorem scattered_characters_are_found (target pattern : Text) :
    (isSubsequence target pattern = true ↔ pattern.Sublist target) ∧
    (isSubsequence target pattern = true ↔ ∃ places, IsSpelledAt target pattern places) ∧
    (isSubsequence target pattern = true ↔
      ∃ places, takenPlaces? target 0 pattern = some places ∧
        IsLeftmost target pattern places) := by
  have htaken : isSubsequence target pattern = true ↔
      ∃ places, takenPlaces? target 0 pattern = some places := by
    rw [← Option.isSome_iff_exists, ← isSubsequence_drop, List.drop_zero]
  refine ⟨isSubsequence_iff_sublist, htaken.trans ⟨?_, ?_⟩, htaken.trans ⟨?_, ?_⟩⟩
  · rintro ⟨places, hplaces⟩
    exact ⟨places, (isSpelledAt_of_takenPlaces? hplaces).1⟩
  · rintro ⟨other, hother⟩
    obtain ⟨places, hplaces, -⟩ := exists_takenPlaces? hother fun i _ => Nat.zero_le i
    exact ⟨places, hplaces⟩
  · rintro ⟨places, hplaces⟩
    exact ⟨places, hplaces, isLeftmost_of_takenPlaces? hplaces⟩
  · rintro ⟨places, hplaces, -⟩
    exact ⟨places, hplaces⟩

/-- The first of two equal characters is taken, although the second would do. -/
example : takenPlaces? "/users".toList 0 "us".toList = some [1, 2] := by decide

end RouteAtlas
