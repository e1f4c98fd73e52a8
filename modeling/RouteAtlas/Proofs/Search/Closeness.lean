import RouteAtlas.Proofs.Score.Path
import RouteAtlas.Proofs.Score.Word
import RouteAtlas.Proofs.Search.Shown

/-!
# The closest paths come first

A search by likeness puts every route into one of three groups by its path alone: it is the query,
it ends with the query, or neither (`pathGroup`). Whatever the names of controller, action and
method score, a route of an earlier group scores more than one of a later group, since no name
scores above 1000 and the two upper bands of path scores lie above that
(`Hit.scoreGroup_of_fuzzy?`). So the groups follow one another along the ranked list, and what a
search cuts off is never of an earlier group than what it shows (`search_shows_closest_first`).
-/

namespace RouteAtlas

/-- How close a path is to a query, ignoring case: 0 if it is the query, 1 if it is longer and ends
with it, 2 otherwise. -/
def pathGroup (query path : Text) : Nat :=
  if Text.lower path = Text.lower query then 0
  else if (Text.lower query).isSuffixOf (Text.lower path) then 1
  else 2

/-- The group that a score stands for. -/
def scoreGroup (score : Nat) : Nat :=
  if 10000 ≤ score then 0 else if 5010 ≤ score then 1 else 2

theorem scoreGroup_le_of_le {a b : Nat} (h : b ≤ a) : scoreGroup a ≤ scoreGroup b := by
  unfold scoreGroup
  split_ifs <;> omega

/-- A path's score tells its group. -/
theorem scoreGroup_pathScore {query : Text} (hquery : query ≠ []) (path : Text) :
    scoreGroup (pathScore path query) = pathGroup query path := by
  rw [pathGroup, scoreGroup]
  by_cases hpath : path = []
  · -- the empty path neither is the query nor ends with it
    have hlower : Text.lower query ≠ [] := mt Text.lower_eq_nil_iff.mp hquery
    have hnil : Text.lower [] = [] := rfl
    rw [hpath, pathScore_of_nil, hnil, if_neg (by omega), if_neg (by omega),
      if_neg (Ne.symm hlower),
      if_neg fun h => hlower (List.suffix_nil.mp (List.isSuffixOf_iff_suffix.mp h))]
  · rcases pathScore_cases hpath hquery with
      ⟨hequal, hscore⟩ | ⟨hne, hends, hlow, hhigh⟩ | ⟨hno, hhigh⟩
    · rw [if_pos hequal, if_pos hscore.ge]
    · rw [if_neg hne, if_pos (List.isSuffixOf_iff_suffix.mpr hends), if_neg (by omega),
        if_pos hlow]
    · have hne : Text.lower path ≠ Text.lower query := fun h => hno (h ▸ List.suffix_refl _)
      rw [if_neg hne, if_neg fun h => hno (List.isSuffixOf_iff_suffix.mp h), if_neg (by omega),
        if_neg (by omega)]

/-! ## Hits -/

variable {routes : List Record} {query : Text} {filter : Filter}

/-- No field but the path is worth more than 1000. -/
theorem Hit.score_ofField_le (query : Text) (r : Record) (field : MatchField) :
    (ofField query r field).score ≤ max (pathScore r.path query) 1000 := by
  rw [ofField]
  cases field with
  | path => exact le_max_left _ _
  | controller => exact le_max_of_le_right (controllerScore_le _ _)
  | action => exact le_max_of_le_right (wordScore_le _ _)
  | method => exact le_max_of_le_right (wordScore_le _ _)

/-- **The score of a hit tells the group of its path**, whatever field it was found by: the path's
own score is a lower bound, and the other fields stay below both upper bands. -/
theorem Hit.scoreGroup_of_fuzzy? {kind : KindFilter} {r : Record} {hit : Hit}
    (hquery : query ≠ []) (h : fuzzy? kind query r = some hit) :
    scoreGroup hit.score = pathGroup query r.path := by
  obtain ⟨rfl, -⟩ := fuzzy?_eq_some_iff.mp h
  have hlow : pathScore r.path query ≤ (best kind query r).score :=
    score_ofField_le_best (path_mem_fuzzyFields kind)
  have hhigh : (best kind query r).score ≤ max (pathScore r.path query) 1000 := by
    obtain ⟨field, -, hfield⟩ := List.mem_map.mp (best_mem kind query r)
    rw [← hfield]
    exact score_ofField_le query r field
  have hmax : scoreGroup (max (pathScore r.path query) 1000) =
      scoreGroup (pathScore r.path query) := by
    unfold scoreGroup
    split_ifs <;> omega
  rw [← scoreGroup_pathScore hquery]
  refine le_antisymm (scoreGroup_le_of_le hlow) ?_
  rw [← hmax]
  exact scoreGroup_le_of_le hhigh

/-- A route of one of the two upper groups is found, whatever its kind is filtered by. -/
theorem Hit.isSome_fuzzy?_of_pathGroup_lt {r : Record} (kind : KindFilter) (hquery : query ≠ [])
    (h : pathGroup query r.path < 2) : (fuzzy? kind query r).isSome = true := by
  have hscore : 5010 ≤ pathScore r.path query := by
    rw [← scoreGroup_pathScore hquery, scoreGroup] at h
    split_ifs at h <;> omega
  have hpos : 0 < (ofField query r .path).score := (Nat.zero_lt_succ 5009).trans_le hscore
  obtain ⟨hit, hhit⟩ := exists_fuzzy?_eq_some (path_mem_fuzzyFields kind) hpos
  rw [hhit]
  rfl

/-! ## Searches -/

theorem scoreGroup_of_mem_rankedHits {hit : Hit} (hquery : query ≠ [])
    (h : hit ∈ rankedHits routes filter (.fuzzy query)) :
    scoreGroup hit.score = pathGroup query hit.route.path :=
  Hit.scoreGroup_of_fuzzy? hquery (find?_of_mem_rankedHits h).2

/-- Groups ascend along a ranked list. -/
theorem pairwise_pathGroup_rankedHits (hquery : query ≠ []) :
    (rankedHits routes filter (.fuzzy query)).Pairwise fun a b =>
      pathGroup query a.route.path ≤ pathGroup query b.route.path := by
  refine (pairwise_score_rank _).imp_of_mem fun {a b} ha hb hab => ?_
  rw [← scoreGroup_of_mem_rankedHits hquery ha, ← scoreGroup_of_mem_rankedHits hquery hb]
  exact scoreGroup_le_of_le hab

/-- The routes of a group. -/
def inGroup (query : Text) (group : Nat) (routes : List Record) : List Record :=
  routes.filter fun r => pathGroup query r.path = group

/-- Of an upper group, the ranked list has every route that is admitted, as often as it is there. -/
theorem inGroup_rankedHits_perm {group : Nat} (hquery : query ≠ []) (hgroup : group < 2) :
    (inGroup query group ((rankedHits routes filter (.fuzzy query)).map Hit.route)).Perm
      (inGroup query group (filter.select routes)) := by
  refine ((map_route_rankedHits_perm routes filter (.fuzzy query)).filter _).trans ?_
  rw [List.filter_filter, inGroup]
  -- each of them scores by its path, so that none is dropped for not being found
  refine List.Perm.of_eq (List.filter_congr fun r _ => ?_)
  by_cases hr : pathGroup query r.path = group
  · have hfound := Hit.isSome_fuzzy?_of_pathGroup_lt filter.kind hquery (hr ▸ hgroup)
    rw [Hit.find?_fuzzy, hfound, Bool.and_true]
  · rw [decide_eq_false hr, Bool.false_and]

/-- A beginning of a list in which groups ascend has all of each group in front of one that it
reaches. -/
theorem inGroup_take {hits : List Hit} {count group : Nat} {hit : Hit}
    (hsorted : hits.Pairwise fun a b =>
      pathGroup query a.route.path ≤ pathGroup query b.route.path)
    (hhit : hit ∈ hits.take count) (hgroup : group < pathGroup query hit.route.path) :
    inGroup query group ((hits.take count).map Hit.route) =
      inGroup query group (hits.map Hit.route) := by
  have hsplit := List.take_append_drop count hits
  -- what is cut off stands behind a hit of a later group
  have hrest : inGroup query group ((hits.drop count).map Hit.route) = [] := by
    refine List.filter_eq_nil_iff.mpr fun r hr => ?_
    obtain ⟨later, hlater, rfl⟩ := List.mem_map.mp hr
    rw [← hsplit] at hsorted
    have hle := (List.pairwise_append.mp hsorted).2.2 hit hhit later hlater
    simp only [decide_eq_true_eq]
    omega
  conv_rhs => rw [← hsplit]
  rw [inGroup] at hrest ⊢
  rw [List.map_append, inGroup, List.filter_append, hrest, List.append_nil]

/-- **The closest paths come first.** A search by likeness for a query that is not blank, if it is
not refused for its limit, shows the routes whose path is the query, then those whose path ends with
it, then all others, whatever their names score. And if it shows a route of some group, then it
shows every admitted route of each earlier group, as often as it is there. -/
theorem search_shows_closest_first (settings : Settings) (routes : List Record) (query : Text)
    (filter : Filter) (limit : Option Int) (hquery : Text.trim query ≠ []) :
    (∃ n, limit = some n ∧ n < 1 ∧
        search settings routes { query, filter, limit } = .error (.limitTooSmall n)) ∨
      ∃ o, search settings routes { query, filter, limit } = .ok o ∧
        o.results.Pairwise (fun a b =>
          pathGroup query a.route.path ≤ pathGroup query b.route.path) ∧
        ∀ hit ∈ o.results, ∀ group < pathGroup query hit.route.path,
          (inGroup query group (o.results.map Hit.route)).Perm
            (inGroup query group ((Request.plainFilter { filter }).select routes)) := by
  have hne : query ≠ [] := by
    rintro rfl
    exact hquery rfl
  rcases search_fuzzy_cases settings routes query filter limit hquery with
    hrefused | ⟨o, count, hsearch, ho⟩
  · exact Or.inl hrefused
  have hsorted : (rankedHits routes (Request.plainFilter { filter }) (.fuzzy query)).Pairwise _ :=
    pairwise_pathGroup_rankedHits hne
  refine Or.inr ⟨o, hsearch, ?_, fun hit hhit group hgroup => ?_⟩
  · rw [ho.results]
    exact hsorted.sublist (List.take_sublist _ _)
  · have hlast : pathGroup query hit.route.path ≤ 2 := by
      unfold pathGroup
      split_ifs <;> omega
    rw [ho.results] at hhit ⊢
    rw [inGroup_take hsorted hhit hgroup]
    exact inGroup_rankedHits_perm hne (by omega)

/-- A controller whose name is the query does not get in front of a path that only ends with it. -/
theorem search_shows_closest_first_users :
    let named : Record :=
      { id := ['n'], path := "/roles".toList, source := ⟨['f'], 1, by decide⟩,
        controller := "UsersController".toList, role := .controller, id_ne := by decide }
    let ending : Record :=
      { named with id := ['e'], path := "/api/users".toList, controller := ['C'],
                   id_ne := by decide }
    Text.trim "users".toList ≠ [] ∧
      pathGroup "users".toList named.path = 2 ∧ pathGroup "users".toList ending.path = 1 ∧
      ∃ o, search .standard [named, ending] { query := "users".toList, limit := some 2 } = .ok o ∧
        named ∈ o.results.map Hit.route ∧ ending ∈ o.results.map Hit.route ∧
        (o.results.Pairwise fun a b =>
          pathGroup "users".toList a.route.path ≤ pathGroup "users".toList b.route.path) ∧
        ∀ hit ∈ o.results, hit.route = named →
          (inGroup "users".toList 1 (o.results.map Hit.route)).Perm [ending] := by
  intro named ending
  have hquery : Text.trim "users".toList ≠ [] := by decide
  have hnamed : pathGroup "users".toList named.path = 2 := by decide
  refine ⟨hquery, hnamed, by decide, ?_⟩
  rcases search_shows_closest_first .standard [named, ending] "users".toList {} (some 2) hquery with
    ⟨n, hn, hlt, -⟩ | ⟨o, hsearch, hsorted, hgroups⟩
  · obtain rfl := Option.some.inj hn
    omega
  · obtain ⟨o', hsearch', hresults, -⟩ := search_shows_all .standard [named, ending]
      { query := "users".toList } 2 (Request.matcher_fuzzy rfl hquery) (by decide)
      (length_rankedHits_le _ _ _)
    obtain rfl := Except.ok.inj (hsearch'.symm.trans hsearch)
    have hfound : ∀ r ∈ [named, ending],
        (Hit.find? (.fuzzy "users".toList) .all r).isSome = true →
          r ∈ o'.results.map Hit.route := by
      intro r hr hhit
      rw [hresults, (map_route_rankedHits_perm _ _ _).mem_iff]
      exact List.mem_filter.mpr ⟨List.mem_filter.mpr ⟨hr, rfl⟩, hhit⟩
    refine ⟨o', hsearch, hfound named (by simp) ?_, hfound ending (by simp) ?_, hsorted, ?_⟩
    · have hscore : 0 < (Hit.ofField "users".toList named .controller).score := by decide +kernel
      have hcontroller : MatchField.controller ∈ Hit.fuzzyFields .all := by decide
      obtain ⟨hit, hhit⟩ := Hit.exists_fuzzy?_eq_some hcontroller hscore
      rw [Hit.find?_fuzzy, hhit]
      rfl
    · exact Hit.isSome_fuzzy?_of_pathGroup_lt .all (by decide) (by decide)
    · intro hit hhit hroute
      exact hgroups hit hhit 1 (by rw [hroute, hnamed]; decide)

end RouteAtlas
