import RouteAtlas.Proofs.Search.Hits
import RouteAtlas.Proofs.Sorting
import RouteAtlas.Search.Outcome

/-!
# The ranked list

A search ranks its hits by one stable sort. `Hit.rankKey` is the key of that sort, the
score downwards and then the path upwards; what follows from sorting by a key holds of
ranked lists by `ranksBefore_sortsBy`. Nothing here depends on how hits are scored.

The shown part of a ranked list is described by `Outcome.ShowsFirst`: a beginning of the
list, with the length of the whole list as the number of matches.
-/

namespace RouteAtlas

/-- Higher scores first, then smaller paths. -/
def Hit.rankKey (hit : Hit) : ℕᵒᵈ ×ₗ Text := toLex (OrderDual.toDual hit.score, hit.route.path)

/-- Hits are ranked by score, highest first, and then by path. -/
theorem Hit.rankKey_lt_iff {a b : Hit} :
    a.rankKey < b.rankKey ↔
      b.score < a.score ∨ a.score = b.score ∧ a.route.path < b.route.path := by
  rw [rankKey, rankKey, Prod.Lex.toLex_lt_toLex]
  rfl

theorem Hit.rankKey_eq_iff {a b : Hit} :
    a.rankKey = b.rankKey ↔ a.score = b.score ∧ a.route.path = b.route.path := by
  rw [rankKey, rankKey, toLex_inj, Prod.mk.injEq, OrderDual.toDual_inj]

theorem ranksBefore_sortsBy : SortsBy Hit.ranksBefore Hit.rankKey := by
  intro a b
  rw [Hit.ranksBefore, Hit.rankKey, Hit.rankKey, Prod.Lex.toLex_le_toLex]
  simp only [Bool.or_eq_true, Bool.and_eq_true, decide_eq_true_eq, beq_iff_eq,
    Text.le_eq_true_iff, OrderDual.toDual_lt_toDual, OrderDual.toDual_inj]

theorem rank_perm (hits : List Hit) : (rank hits).Perm hits := List.mergeSort_perm hits _

theorem length_rank (hits : List Hit) : (rank hits).length = hits.length :=
  (rank_perm hits).length_eq

/-- What a test keeps of a ranked list is ranked as it would be alone. -/
theorem filter_rank (p : Hit → Bool) (hits : List Hit) :
    (rank hits).filter p = rank (hits.filter p) :=
  ranksBefore_sortsBy.filter_mergeSort p hits

/-- Scores descend along a ranked list. -/
theorem pairwise_score_rank (hits : List Hit) :
    (rank hits).Pairwise fun a b => b.score ≤ a.score := by
  have trivially : hits.Pairwise fun _ _ => True := List.pairwise_of_forall fun _ _ => trivial
  refine (ranksBefore_sortsBy.pairwise_mergeSort trivially).imp ?_
  rintro a b (hlt | ⟨heq, -⟩)
  · rcases Hit.rankKey_lt_iff.mp hlt with hscore | ⟨hscore, -⟩
    · exact hscore.le
    · exact hscore.ge
  · exact (Hit.rankKey_eq_iff.mp heq).1.ge

/-- The largest of some numbers is one of them. -/
theorem foldl_max_mem (first : Nat) (rest : List Nat) : rest.foldl max first ∈ first :: rest := by
  induction rest generalizing first with
  | nil => exact List.mem_singleton_self first
  | cons n rest ih =>
    rw [List.foldl_cons]
    rcases List.mem_cons.mp (ih (max first n)) with heq | hmem
    · rw [heq]
      rcases le_total first n with hle | hle
      · rw [max_eq_right hle]
        exact List.mem_cons_of_mem _ List.mem_cons_self
      · rw [max_eq_left hle]
        exact List.mem_cons_self
    · exact List.mem_cons_of_mem _ (List.mem_cons_of_mem _ hmem)

/-- The best score is that of some hit, if there are hits and they have scored. -/
theorem exists_score_eq_topScore {hits : List Hit} (hne : hits ≠ [])
    (hpos : ∀ hit ∈ hits, 0 < hit.score) : ∃ hit ∈ hits, hit.score = topScore hits := by
  obtain ⟨first, others, rfl⟩ := List.exists_cons_of_ne_nil hne
  have htop : topScore (first :: others) = (others.map Hit.score).foldl max first.score := by
    rw [topScore, List.map_cons, List.foldl_cons, Nat.zero_max]
  have hmem : topScore (first :: others) ∈ (first :: others).map Hit.score := by
    rw [htop, List.map_cons]
    exact foldl_max_mem first.score (others.map Hit.score)
  obtain ⟨hit, hhit, heq⟩ := List.mem_map.mp hmem
  exact ⟨hit, hhit, heq⟩

/-- A hit of a search is the hit of its route, and the route is admitted. -/
theorem find?_of_mem_rankedHits {routes : List Record} {filter : Filter} {matcher : Matcher}
    {hit : Hit} (h : hit ∈ rankedHits routes filter matcher) :
    hit.route ∈ filter.select routes ∧ Hit.find? matcher filter.kind hit.route = some hit := by
  obtain ⟨r, hr, hfind⟩ := List.mem_filterMap.mp ((rank_perm _).mem_iff.mp h)
  rw [Hit.route_of_find? hfind]
  exact ⟨hr, hfind⟩

/-- The hits of a search have scored. -/
theorem score_pos_of_mem_rankedHits {routes : List Record} {filter : Filter} {matcher : Matcher}
    {hit : Hit} (h : hit ∈ rankedHits routes filter matcher) : 0 < hit.score :=
  Hit.score_pos_of_find? (find?_of_mem_rankedHits h).2

/-- No more is found than there are routes. -/
theorem length_rankedHits_le (routes : List Record) (filter : Filter) (matcher : Matcher) :
    (rankedHits routes filter matcher).length ≤ routes.length := by
  rw [rankedHits, length_rank]
  exact (List.length_filterMap_le _ _).trans (List.length_filter_le _ _)

/-- The routes of the hits among some routes are those that are found. -/
theorem map_route_filterMap_find? (matcher : Matcher) (kind : KindFilter) (routes : List Record) :
    (routes.filterMap (Hit.find? matcher kind)).map Hit.route =
      routes.filter fun r => (Hit.find? matcher kind r).isSome := by
  rw [List.map_filterMap, ← List.filterMap_eq_filter]
  refine List.filterMap_congr fun r _ => ?_
  cases hfind : Hit.find? matcher kind r with
  | none => simp [Option.guard, hfind]
  | some hit => simp [Option.guard, hfind, Hit.route_of_find? hfind]

/-- The routes of the hits of a search are those that are admitted and found, in some order. -/
theorem map_route_rankedHits_perm (routes : List Record) (filter : Filter) (matcher : Matcher) :
    ((rankedHits routes filter matcher).map Hit.route).Perm
      ((filter.select routes).filter fun r => (Hit.find? matcher filter.kind r).isSome) := by
  rw [← map_route_filterMap_find?]
  exact (rank_perm _).map Hit.route

end RouteAtlas
