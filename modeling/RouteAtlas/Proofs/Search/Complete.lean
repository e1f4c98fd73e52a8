import RouteAtlas.Proofs.Search.Shown

/-!
# Nothing is lost, nothing is doubled

With room for all, a search answers with every route that its filter admits and that
scores, each occurrence once: `search_finds_each_once`. The proof carries the place of
each route through the whole search. `taggedHits` are the hits with the places of their
routes; forgetting the places gives the hits that are ranked, and the ranking, being
stable, puts hits that tie by place.

Places are what tells the occurrences of one route apart. They ascend in front of the ranking
(`pairwise_tag_taggedHits`), and sorting keeps that order among hits that tie.
-/

namespace RouteAtlas

/-! ## What scores -/

/-- What a route scores in a search, 0 if it is not found. -/
def Hit.scoreOf (matcher : Matcher) (kind : KindFilter) (r : Record) : Nat :=
  ((Hit.find? matcher kind r).map Hit.score).getD 0

/-- The routes that a filter admits and that score, with their places in the list. -/
def scoringRoutes (routes : List Record) (filter : Filter) (matcher : Matcher) :
    List (Record × Nat) :=
  routes.zipIdx.filter fun (r, _) =>
    filter.admits r && decide (0 < Hit.scoreOf matcher filter.kind r)

/-- One scoring route belongs before another one: a higher score, or the same score and a smaller
path, or both the same and an earlier place. -/
def BelongsBefore (matcher : Matcher) (kind : KindFilter) (a b : Record × Nat) : Prop :=
  Hit.scoreOf matcher kind b.1 < Hit.scoreOf matcher kind a.1 ∨
    Hit.scoreOf matcher kind a.1 = Hit.scoreOf matcher kind b.1 ∧
      (a.1.path < b.1.path ∨ a.1.path = b.1.path ∧ a.2 < b.2)

/-! ## Hits with their places -/

/-- The hit of a route at a place, if the filter admits the route. -/
def taggedHit? (filter : Filter) (matcher : Matcher) (row : Record × Nat) : Option (Hit × Nat) :=
  if filter.admits row.1 then (Hit.find? matcher filter.kind row.1).map (·, row.2) else none

/-- The hits of a search with the places of their routes. -/
def taggedHits (routes : List Record) (filter : Filter) (matcher : Matcher) : List (Hit × Nat) :=
  routes.zipIdx.filterMap (taggedHit? filter matcher)

variable {routes : List Record} {filter : Filter} {matcher : Matcher}

theorem taggedHit?_eq_some {row : Record × Nat} {tagged : Hit × Nat}
    (h : taggedHit? filter matcher row = some tagged) :
    filter.admits row.1 = true ∧ Hit.find? matcher filter.kind row.1 = some tagged.1 ∧
      tagged.1.route = row.1 ∧ tagged.2 = row.2 := by
  unfold taggedHit? at h
  split at h
  next hadmits =>
    obtain ⟨hit, hfind, rfl⟩ := Option.map_eq_some_iff.mp h
    exact ⟨hadmits, hfind, Hit.route_of_find? hfind, rfl⟩
  next => exact absurd h (by simp)

/-- Without the places, the tagged hits are the hits that a search ranks. -/
theorem map_fst_taggedHits :
    (taggedHits routes filter matcher).map Prod.fst =
      (filter.select routes).filterMap (Hit.find? matcher filter.kind) := by
  have hfst : routes = routes.zipIdx.map Prod.fst := (List.zipIdx_map_fst 0 routes).symm
  conv_rhs => rw [hfst]
  rw [taggedHits, Filter.select, List.map_filterMap, List.filter_map, List.filterMap_map,
    List.filterMap_filter]
  refine List.filterMap_congr fun row _ => ?_
  simp only [taggedHit?, Function.comp_apply]
  split
  next => rw [Option.map_map]; exact Option.map_id'
  next => rfl

/-- Without their hits, the tagged hits are the scoring routes. -/
theorem map_route_taggedHits :
    (taggedHits routes filter matcher).map (fun tagged => (tagged.1.route, tagged.2)) =
      scoringRoutes routes filter matcher := by
  rw [taggedHits, scoringRoutes, List.map_filterMap, ← List.filterMap_eq_filter]
  refine List.filterMap_congr fun row _ => ?_
  obtain ⟨r, place⟩ := row
  cases hadmits : filter.admits r with
  | false => simp [taggedHit?, hadmits, Option.guard]
  | true =>
    cases hfind : Hit.find? matcher filter.kind r with
    | none => simp [taggedHit?, hadmits, hfind, Hit.scoreOf, Option.guard]
    | some hit =>
      have hpos := Hit.score_pos_of_find? hfind
      have hroute := Hit.route_of_find? hfind
      simp [taggedHit?, hadmits, hfind, Hit.scoreOf, Option.guard, hpos, hroute]

/-- The tags ascend. -/
theorem pairwise_tag_taggedHits :
    (taggedHits routes filter matcher).Pairwise fun a b => a.2 < b.2 := by
  refine List.Pairwise.filterMap _ ?_ (pairwise_place_zipIdx routes)
  intro a b hlt a' ha b' hb
  rw [(taggedHit?_eq_some ha).2.2.2, (taggedHit?_eq_some hb).2.2.2]
  exact hlt

/-! ## Ranked hits with their places -/

/-- The tagged hits as a search ranks them. -/
def rankedTaggedHits (routes : List Record) (filter : Filter) (matcher : Matcher) :
    List (Hit × Nat) :=
  (taggedHits routes filter matcher).mergeSort fun a b => a.1.ranksBefore b.1

theorem map_fst_rankedTaggedHits :
    (rankedTaggedHits routes filter matcher).map Prod.fst = rankedHits routes filter matcher := by
  rw [rankedTaggedHits, rankedHits, rank, ← map_fst_taggedHits]
  exact List.map_mergeSort fun _ _ _ _ => rfl

/-- A search has as many hits as routes that score. -/
theorem length_rankedHits :
    (rankedHits routes filter matcher).length = (scoringRoutes routes filter matcher).length := by
  rw [rankedHits, length_rank, ← map_fst_taggedHits, ← map_route_taggedHits, List.length_map,
    List.length_map]

/-- Along the ranked list every route belongs before the next ones. -/
theorem pairwise_rankedTaggedHits :
    ((rankedTaggedHits routes filter matcher).map fun tagged => (tagged.1.route, tagged.2)).Pairwise
      (BelongsBefore matcher filter.kind) := by
  have hsorts : SortsBy (fun a b : Hit × Nat => a.1.ranksBefore b.1) (fun a => a.1.rankKey) :=
    fun a b => ranksBefore_sortsBy a.1 b.1
  have hscore : ∀ tagged ∈ rankedTaggedHits routes filter matcher,
      Hit.scoreOf matcher filter.kind tagged.1.route = tagged.1.score := by
    intro tagged htagged
    obtain ⟨row, -, hrow⟩ := List.mem_filterMap.mp (List.mem_mergeSort.mp htagged)
    obtain ⟨-, hfind, hroute, -⟩ := taggedHit?_eq_some hrow
    rw [Hit.scoreOf, hroute, hfind]
    rfl
  refine List.pairwise_map.mpr
    ((hsorts.pairwise_mergeSort pairwise_tag_taggedHits).imp_of_mem ?_)
  intro a b ha hb hab
  rw [BelongsBefore, hscore a ha, hscore b hb]
  rcases hab with hlt | ⟨heq, hplace⟩
  · rcases Hit.rankKey_lt_iff.mp hlt with hlt | ⟨heq, hlt⟩
    · exact Or.inl hlt
    · exact Or.inr ⟨heq, Or.inl hlt⟩
  · obtain ⟨hscore, hpath⟩ := Hit.rankKey_eq_iff.mp heq
    exact Or.inr ⟨hscore, Or.inr ⟨hpath, hplace⟩⟩

/-- Every ranked hit is the hit of its route. -/
theorem map_find?_rankedTaggedHits :
    (rankedTaggedHits routes filter matcher).map
        (fun tagged => Hit.find? matcher filter.kind tagged.1.route) =
      (rankedHits routes filter matcher).map some := by
  rw [← map_fst_rankedTaggedHits, List.map_map]
  refine List.map_congr_left fun tagged htagged => ?_
  obtain ⟨row, -, hrow⟩ := List.mem_filterMap.mp (List.mem_mergeSort.mp htagged)
  obtain ⟨-, hfind, hroute, -⟩ := taggedHit?_eq_some hrow
  rw [hroute, hfind]
  rfl

/-! ## Searches -/

/-- Results are numbered from 1 on. -/
theorem Outcome.map_fst_ranked (o : Outcome) :
    o.ranked.map Prod.fst = List.range' 1 o.results.length := by
  have hplace : o.ranked.map Prod.fst = (o.results.zipIdx.map Prod.snd).map (1 + ·) := by
    rw [ranked, List.map_map, List.map_map]
    exact List.map_congr_left fun row _ => Nat.add_comm row.2 1
  rw [hplace, List.zipIdx_map_snd, List.map_add_range']

/-- **A search with room for all is complete.** Its results are the hits of an arrangement of the
scoring routes, each with its place in the list: every occurrence of an admitted route that scores
stands in it exactly once, in the order of scores, paths and places. -/
theorem search_finds_each_once (settings : Settings) (routes : List Record) (request : Request)
    (matcher : Matcher) (limit : Nat) (hmatcher : request.matcher = .ok matcher)
    (hlimit : 1 ≤ limit)
    (hroom : (scoringRoutes routes request.plainFilter matcher).length ≤ limit) :
    ∃ (o : Outcome) (order : List (Record × Nat)),
      search settings routes { request with limit := some (limit : Int) } = .ok o ∧
      order.Perm (scoringRoutes routes request.plainFilter matcher) ∧
      order.Pairwise (BelongsBefore matcher request.plainFilter.kind) ∧
      o.results.map some =
        order.map (fun row => Hit.find? matcher request.plainFilter.kind row.1) ∧
      o.ranked.map Prod.fst =
        List.range' 1 (scoringRoutes routes request.plainFilter matcher).length ∧
      o.total = (scoringRoutes routes request.plainFilter matcher).length := by
  rw [← length_rankedHits] at hroom
  obtain ⟨o, hsearch, hresults, htotal⟩ :=
    search_shows_all settings routes request _ hmatcher hlimit hroom
  refine ⟨o, (rankedTaggedHits routes request.plainFilter matcher).map
    fun tagged => (tagged.1.route, tagged.2), hsearch, ?_, pairwise_rankedTaggedHits, ?_, ?_, ?_⟩
  · rw [← map_route_taggedHits]
    exact (List.mergeSort_perm _ _).map _
  · rw [hresults, List.map_map]
    exact map_find?_rankedTaggedHits.symm
  · rw [Outcome.map_fst_ranked, hresults, length_rankedHits]
  · rw [htotal, hresults, length_rankedHits]

/-- Two occurrences of one route and a third route, all of one score, are three results. -/
theorem search_finds_each_once_of_ties :
    let users : Record :=
      { id := ['u'], path := "/users".toList, source := ⟨['f'], 1, by decide⟩,
        controller := ['U'], role := .controller, id_ne := by decide }
    let roles : Record := { users with id := ['r'], path := "/roles".toList, id_ne := by decide }
    Request.matcher {} = .ok .everything ∧ 1 ≤ 3 ∧
      (scoringRoutes [users, roles, users] (Request.plainFilter {}) .everything).length ≤ 3 ∧
      ∃ o, search .standard [users, roles, users] { limit := some 3 } = .ok o ∧
        o.ranked.map Prod.fst = [1, 2, 3] ∧ o.total = 3 := by
  intro users roles
  have hroom : (scoringRoutes [users, roles, users] (Request.plainFilter {}) .everything).length
      ≤ 3 := by decide
  refine ⟨rfl, by decide, hroom, ?_⟩
  obtain ⟨o, order, hsearch, -, -, -, hranks, htotal⟩ :=
    search_finds_each_once .standard [users, roles, users] {} .everything 3 rfl (by decide) hroom
  exact ⟨o, hsearch, hranks, htotal⟩

end RouteAtlas
