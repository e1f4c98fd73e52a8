import Mathlib.Order.Nat
import RouteAtlas.Search.Hit

/-!
# What a hit says

A hit is about the route it was looked for in, and it has scored: `Hit.find?` never
answers with another route and never with a score of 0. Both hold for each of the
three ways of looking (everything, by likeness, by a pattern).

A hit by likeness is that of the best field (`fuzzy?_eq_some_iff`), the first one of
equals: no field that is looked at scores more, and those in front of it score less
(`isFirstBest_best`).
-/

namespace RouteAtlas.Hit

/-- A hit is the first one of the best: those in front of it score less, those behind it no more. -/
def IsFirstBest (hits : List Hit) (best : Hit) : Prop :=
  ∃ before after, hits = before ++ best :: after ∧
    (∀ hit ∈ before, hit.score < best.score) ∧ ∀ hit ∈ after, hit.score ≤ best.score

namespace IsFirstBest

variable {hits : List Hit} {best hit other first : Hit}

theorem mem (h : IsFirstBest hits best) : best ∈ hits := by
  obtain ⟨before, after, rfl, -, -⟩ := h
  exact List.mem_append_right before List.mem_cons_self

theorem score_le (h : IsFirstBest hits best) (hmem : hit ∈ hits) : hit.score ≤ best.score := by
  obtain ⟨before, after, rfl, hbefore, hafter⟩ := h
  rcases List.mem_append.mp hmem with hfront | hrest
  · exact (hbefore hit hfront).le
  · rcases List.mem_cons.mp hrest with rfl | hback
    · exact le_rfl
    · exact hafter hit hback

/-- A hit that scores less than the best one may stand in front of them all. -/
theorem cons (h : IsFirstBest hits best) (hscore : hit.score < best.score) :
    IsFirstBest (hit :: hits) best := by
  obtain ⟨before, after, rfl, hbefore, hafter⟩ := h
  exact ⟨hit :: before, after, rfl, List.forall_mem_cons.mpr ⟨hscore, hbefore⟩, hafter⟩

/-- A hit that does not score more than the first one may stand right behind it. -/
theorem cons_cons (h : IsFirstBest (first :: hits) best) (hscore : other.score ≤ first.score) :
    IsFirstBest (first :: other :: hits) best := by
  obtain ⟨before, after, hsplit, hbefore, hafter⟩ := h
  cases before with
  | nil =>
    obtain ⟨rfl, rfl⟩ := List.cons.inj hsplit
    exact ⟨[], other :: hits, rfl, hbefore, List.forall_mem_cons.mpr ⟨hscore, hafter⟩⟩
  | cons head before =>
    obtain ⟨rfl, rfl⟩ := List.cons.inj hsplit
    obtain ⟨hfirst, hrest⟩ := List.forall_mem_cons.mp hbefore
    have hother : other.score < best.score := hscore.trans_lt hfirst
    refine ⟨first :: other :: before, after, rfl, ?_, hafter⟩
    exact List.forall_mem_cons.mpr ⟨hfirst, List.forall_mem_cons.mpr ⟨hother, hrest⟩⟩

/-- The best hit is the first one of all, or a later one that scores more. -/
theorem eq_or_lt (h : IsFirstBest (first :: hits) best) :
    best = first ∨ best ∈ hits ∧ first.score < best.score := by
  obtain ⟨before, after, hsplit, hbefore, -⟩ := h
  cases before with
  | nil => exact Or.inl (List.cons.inj hsplit).1.symm
  | cons head before =>
    obtain ⟨rfl, rfl⟩ := List.cons.inj hsplit
    exact Or.inr ⟨List.mem_append_right before List.mem_cons_self,
      hbefore first List.mem_cons_self⟩

end IsFirstBest

/-- The choice between hits is the first one of the best. -/
theorem isFirstBest_foldl_better (first : Hit) (others : List Hit) :
    IsFirstBest (first :: others) (others.foldl better first) := by
  induction others generalizing first with
  | nil => exact ⟨[], [], rfl, by simp, by simp⟩
  | cons other others ih =>
    rw [List.foldl_cons]
    by_cases hscore : first.score < other.score
    · rw [better, if_pos hscore]
      have hother := ih other
      exact hother.cons (hscore.trans_le (hother.score_le List.mem_cons_self))
    · rw [better, if_neg hscore]
      exact (ih first).cons_cons (not_lt.mp hscore)

/-! ## Fuzzy hits -/

/-- The best field of a route, the first one of equals. -/
def best (kind : KindFilter) (query : Text) (r : Record) : Hit :=
  ((fuzzyFields kind).tail.map (ofField query r)).foldl better (ofField query r .path)

/-- The path comes first among the fields. -/
theorem fuzzyFields_eq_cons (kind : KindFilter) :
    fuzzyFields kind = .path :: (fuzzyFields kind).tail := by
  match kind with
  | .all | .only .controller | .only .endpoint => rfl

/-- The path is looked at for every kind of route. -/
theorem path_mem_fuzzyFields (kind : KindFilter) : .path ∈ fuzzyFields kind := by
  rw [fuzzyFields_eq_cons]
  exact List.mem_cons_self

/-- A hit by likeness is the best one, if it has scored. -/
theorem fuzzy?_eq (kind : KindFilter) (query : Text) (r : Record) :
    fuzzy? kind query r =
      if (best kind query r).score = 0 then none else some (best kind query r) := by
  rw [fuzzy?, fuzzyFields_eq_cons]
  rfl

variable {kind : KindFilter} {query : Text} {r : Record} {hit : Hit} {field : MatchField}

/-- The best field is the first one of those with the highest score. -/
theorem isFirstBest_best (kind : KindFilter) (query : Text) (r : Record) :
    IsFirstBest ((fuzzyFields kind).map (ofField query r)) (best kind query r) := by
  rw [fuzzyFields_eq_cons, List.map_cons]
  exact isFirstBest_foldl_better _ _

theorem best_mem (kind : KindFilter) (query : Text) (r : Record) :
    best kind query r ∈ (fuzzyFields kind).map (ofField query r) :=
  (isFirstBest_best kind query r).mem

theorem score_ofField_le_best (h : field ∈ fuzzyFields kind) :
    (ofField query r field).score ≤ (best kind query r).score :=
  (isFirstBest_best kind query r).score_le (List.mem_map_of_mem h)

/-- Looking by likeness asks for the best field. -/
theorem find?_fuzzy (query : Text) (kind : KindFilter) (r : Record) :
    find? (.fuzzy query) kind r = fuzzy? kind query r := rfl

/-- A fuzzy hit is the best field, and it has scored. -/
theorem fuzzy?_eq_some_iff :
    fuzzy? kind query r = some hit ↔ hit = best kind query r ∧ 0 < hit.score := by
  rw [fuzzy?_eq, ite_eq_iff]
  constructor
  · rintro (⟨-, h⟩ | ⟨hscore, h⟩)
    · exact absurd h (by simp)
    · obtain rfl := Option.some.inj h
      exact ⟨rfl, Nat.pos_of_ne_zero hscore⟩
  · rintro ⟨rfl, hscore⟩
    exact Or.inr ⟨hscore.ne', rfl⟩

/-- A fuzzy hit is the hit of one of the fields that are looked at, and it has scored. -/
theorem fuzzy?_eq_some (h : fuzzy? kind query r = some hit) :
    hit ∈ (fuzzyFields kind).map (ofField query r) ∧ 0 < hit.score := by
  obtain ⟨rfl, hscore⟩ := fuzzy?_eq_some_iff.mp h
  exact ⟨best_mem kind query r, hscore⟩

/-- A route is found as soon as one of its fields scores. -/
theorem exists_fuzzy?_eq_some (hfield : field ∈ fuzzyFields kind)
    (hscore : 0 < (ofField query r field).score) : ∃ hit, fuzzy? kind query r = some hit :=
  ⟨_, fuzzy?_eq_some_iff.mpr ⟨rfl, hscore.trans_le (score_ofField_le_best hfield)⟩⟩

/-! ## All hits -/

/-- A literal hit scores what one of the fields is worth. -/
theorem literal?_eq_some {pattern : Pattern} {r : Record} {hit : Hit}
    (h : literal? pattern r = some hit) :
    hit.route = r ∧ (hit.field, hit.score) ∈ literalScores := by
  obtain ⟨⟨field, score⟩, hmem, hfield⟩ := List.exists_of_findSome?_eq_some h
  dsimp only at hfield
  split at hfield
  next => exact absurd hfield (by simp)
  next value _ =>
    split at hfield
    next =>
      obtain rfl := Option.some.inj hfield
      exact ⟨rfl, hmem⟩
    next => exact absurd hfield (by simp)

/-- A hit is about the route it was looked for in. -/
theorem route_of_find? {matcher : Matcher} {kind : KindFilter} {r : Record} {hit : Hit}
    (h : find? matcher kind r = some hit) : hit.route = r := by
  cases matcher with
  | everything => exact congrArg route (Option.some.inj h).symm
  | fuzzy query =>
    obtain ⟨field, -, rfl⟩ := List.mem_map.mp (fuzzy?_eq_some h).1
    rfl
  | literal pattern => exact (literal?_eq_some h).1

/-- A hit has scored. -/
theorem score_pos_of_find? {matcher : Matcher} {kind : KindFilter} {r : Record} {hit : Hit}
    (h : find? matcher kind r = some hit) : 0 < hit.score := by
  cases matcher with
  | everything =>
    obtain rfl := Option.some.inj h
    exact (by decide : 0 < baseScore)
  | fuzzy query => exact (fuzzy?_eq_some h).2
  | literal pattern =>
    have hmem := (literal?_eq_some h).2
    simp only [literalScores, List.mem_cons, Prod.mk.injEq, List.not_mem_nil, or_false] at hmem
    omega

end RouteAtlas.Hit
