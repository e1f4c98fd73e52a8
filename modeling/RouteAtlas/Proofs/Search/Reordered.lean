import RouteAtlas.Proofs.Search.Shown

/-!
# The order of the routes carries no meaning

The same routes in another order give the same answers up to the choice among routes that
tie: `search_of_perm` for searches and `listRoutes_of_perm` for listings, joined in
`answers_of_perm`. A stable sort does let the order of its input through, so the routes
themselves may differ; what is compared is the sequence of keys. How many hits are shown
depends on the scores alone (`shownCount_congr`), and so on nothing that the order of the
routes could change.
-/

namespace RouteAtlas

/-- What a result shows of its key. -/
def Hit.scoreAndPath (hit : Hit) : Nat × Text := (hit.score, hit.route.path)

/-- How many hits are shown depends on their scores alone. -/
theorem shownCount_congr {settings : Settings} {limit : Option Nat} {ranked ranked' : List Hit}
    (h : ranked.map Hit.score = ranked'.map Hit.score) :
    shownCount settings limit ranked = shownCount settings limit ranked' := by
  have htop : topScore ranked = topScore ranked' := by rw [topScore, topScore, h]
  have hcount : ∀ p : Nat → Bool,
      (ranked.countP fun hit => p hit.score) = ranked'.countP fun hit => p hit.score := by
    intro p
    have hp : ∀ hits : List Hit, (hits.countP fun hit => p hit.score)
        = (hits.map Hit.score).countP p := fun hits => List.countP_map.symm
    rw [hp, hp, h]
  cases limit with
  | some n =>
    have hlength := congrArg List.length h
    rw [List.length_map, List.length_map] at hlength
    rw [shownCount, shownCount, hlength]
  | none => rw [shownCount, shownCount, htop, hcount (isAboveCutoff _ _)]

/-- Ranked hits that are found among the same routes. -/
theorem rankedHits_perm {routes routes' : List Record} (h : routes.Perm routes') (filter : Filter)
    (matcher : Matcher) :
    (rankedHits routes filter matcher).Perm (rankedHits routes' filter matcher) := by
  have hhits := (h.filter filter.admits).filterMap (Hit.find? matcher filter.kind)
  exact ((rank_perm _).trans hhits).trans (rank_perm _).symm

/-- Ranked hits that are found among the same routes have the same keys at the same ranks. -/
theorem map_scoreAndPath_rankedHits {routes routes' : List Record} (h : routes.Perm routes')
    (filter : Filter) (matcher : Matcher) :
    (rankedHits routes filter matcher).map Hit.scoreAndPath =
      (rankedHits routes' filter matcher).map Hit.scoreAndPath := by
  have hhits := (h.filter filter.admits).filterMap (Hit.find? matcher filter.kind)
  have hkeys := ranksBefore_sortsBy.map_key_mergeSort_eq_of_perm hhits
  have hpair : ∀ hits : List Hit, hits.map Hit.scoreAndPath =
      (hits.map Hit.rankKey).map fun key => (OrderDual.ofDual (ofLex key).1, (ofLex key).2) := by
    intro hits
    rw [List.map_map]
    rfl
  rw [hpair, hpair]
  exact congrArg _ hkeys

/-- What of an outcome does not depend on the order of the routes: the number of matches, the
number of results, and rank, score and path of each result. -/
def Outcome.view (o : Outcome) : Nat × Nat × List (Nat × Nat × Text) :=
  (o.total, o.shown, o.ranked.map fun (rank, hit) => (rank, hit.scoreAndPath))

/-- The view of an outcome that shows the first hits of a ranked list. -/
theorem Outcome.ShowsFirst.view_eq {o : Outcome} {count : Nat} {ranked : List Hit}
    (h : o.ShowsFirst count ranked) :
    o.view = (ranked.length, min count ranked.length,
      ((ranked.map Hit.scoreAndPath).take count).zipIdx.map
        fun (key, place) => (place + 1, key)) := by
  have hranked : (o.ranked.map fun (rank, hit) => (rank, hit.scoreAndPath)) =
      (o.results.map Hit.scoreAndPath).zipIdx.map fun (key, place) => (place + 1, key) := by
    rw [Outcome.ranked, List.zipIdx_map, List.map_map, List.map_map]
    rfl
  rw [Outcome.view, hranked, Outcome.shown, h.total, h.results, List.length_take, List.map_take]

/-- **Searches.** The same routes in another order are refused alike, or both outcomes show as
many hits of ranked lists that are permutations of each other and agree in every key. -/
theorem search_of_perm {routes routes' : List Record} (h : routes.Perm routes')
    (settings : Settings) (request : Request) :
    (∃ fault, search settings routes request = .error fault ∧
        search settings routes' request = .error fault) ∨
    ∃ (o o' : Outcome) (count : Nat) (ranked ranked' : List Hit),
      search settings routes request = .ok o ∧ search settings routes' request = .ok o' ∧
      o.ShowsFirst count ranked ∧ o'.ShowsFirst count ranked' ∧ ranked.Perm ranked' ∧
      ranked.map Hit.scoreAndPath = ranked'.map Hit.scoreAndPath := by
  cases hlimit : request.limit? with
  | error fault =>
    exact Or.inl ⟨fault, search_eq_error_of_limit? hlimit, search_eq_error_of_limit? hlimit⟩
  | ok limit =>
    cases hmatcher : request.matcher with
    | error fault =>
      exact Or.inl ⟨fault, search_eq_error hlimit hmatcher, search_eq_error hlimit hmatcher⟩
    | ok matcher =>
      obtain ⟨o, ho, hshows⟩ := search_showsFirst settings routes hlimit hmatcher
      obtain ⟨o', ho', hshows'⟩ := search_showsFirst settings routes' hlimit hmatcher
      have hkeys := map_scoreAndPath_rankedHits h request.plainFilter matcher
      have hscores : (rankedHits routes request.plainFilter matcher).map Hit.score =
          (rankedHits routes' request.plainFilter matcher).map Hit.score := by
        have := congrArg (List.map Prod.fst) hkeys
        rwa [List.map_map, List.map_map] at this
      rw [← shownCount_congr hscores] at hshows'
      exact Or.inr ⟨o, o', _, _, _, ho, ho', hshows, hshows', rankedHits_perm h _ _, hkeys⟩

/-! ## Listings -/

/-- Paths upwards, then names of methods, controllers first. -/
def Record.listKey (r : Record) : Text ×ₗ Text := toLex (r.path, r.methodName)

theorem listsBefore_sortsBy : SortsBy Record.listsBefore Record.listKey := by
  intro a b
  rw [Record.listsBefore, Record.listKey, Record.listKey, Prod.Lex.toLex_le_toLex]
  split
  next heq =>
    rw [Text.le_eq_true_iff]
    simp [heq]
  next hne =>
    rw [Text.le_eq_true_iff]
    simp [hne, le_iff_lt_or_eq]

/-- A method is known by its name, and a controller by having none. -/
theorem Record.method?_eq_find? (r : Record) : r.method? = Method.ofName? r.methodName :=
  (Method.ofName?_name r.method?).symm

/-- **Listings.** The same routes in another order are listed with the same paths and methods. -/
theorem listRoutes_of_perm {routes routes' : List Record} (h : routes.Perm routes')
    (listing : Listing) :
    (listRoutes routes listing).Perm (listRoutes routes' listing) ∧
      (listRoutes routes listing).map (fun r => (r.path, r.method?)) =
        (listRoutes routes' listing).map (fun r => (r.path, r.method?)) := by
  have hselected := (h.filter listing.filter.admits).filter fun r =>
    listing.path.isEmpty || Text.hasPart (Text.lower listing.path) (Text.lower r.path)
  have hkeys := listsBefore_sortsBy.map_key_mergeSort_eq_of_perm hselected
  have hpair : ∀ rs : List Record, rs.map (fun r => (r.path, r.method?)) =
      (rs.map Record.listKey).map fun key => ((ofLex key).1, Method.ofName? (ofLex key).2) := by
    intro rs
    rw [List.map_map]
    exact List.map_congr_left fun r _ => Prod.ext rfl r.method?_eq_find?
  refine ⟨((List.mergeSort_perm _ _).trans hselected).trans (List.mergeSort_perm _ _).symm, ?_⟩
  rw [hpair, hpair]
  exact congrArg _ hkeys

/-- **The order of the routes only decides among ties.** For the same routes in any two orders, a
search has the same matches, results, ranks, scores and paths, and a listing the same paths and
methods. The results are beginnings, of one length, of two arrangements of the same hits, and the
listings are two arrangements of the same routes, with equal keys at every place. -/
theorem answers_of_perm (routes routes' : List Record) (h : routes.Perm routes')
    (settings : Settings) :
    (∀ request : Request,
      (search settings routes request).map Outcome.view =
        (search settings routes' request).map Outcome.view ∧
      ∀ o o' : Outcome, search settings routes request = .ok o →
        search settings routes' request = .ok o' →
        ∃ (count : Nat) (ranked ranked' : List Hit),
          o.ShowsFirst count ranked ∧ o'.ShowsFirst count ranked' ∧ ranked.Perm ranked' ∧
          ranked.map Hit.scoreAndPath = ranked'.map Hit.scoreAndPath) ∧
    ∀ listing : Listing,
      (listRoutes routes listing).map (fun r => (r.path, r.method?)) =
        (listRoutes routes' listing).map (fun r => (r.path, r.method?)) ∧
      (listRoutes routes listing).Perm (listRoutes routes' listing) := by
  refine ⟨fun request => ?_, fun listing => (listRoutes_of_perm h listing).symm⟩
  rcases search_of_perm h settings request with
    ⟨fault, hs, hs'⟩ | ⟨o, o', count, ranked, ranked', hs, hs', ho, ho', hperm, hkeys⟩
  · rw [hs, hs']
    exact ⟨rfl, fun o _ ho _ => absurd ho (by simp)⟩
  · rw [hs, hs']
    refine ⟨?_, fun p p' hp hp' => ?_⟩
    · have hview : o.view = o'.view := by
        rw [ho.view_eq, ho'.view_eq, hkeys, hperm.length_eq]
      exact congrArg Except.ok hview
    · obtain rfl := Except.ok.inj hp
      obtain rfl := Except.ok.inj hp'
      exact ⟨count, ranked, ranked', ho, ho', hperm, hkeys⟩

/-- Two routes that tie, in both orders: the first result is another route, its key is not. Both
answers show both of them. -/
theorem answers_of_perm_swapped :
    let users : Record :=
      { id := ['u'], path := "/users".toList, source := ⟨['f'], 1, by decide⟩,
        controller := ['U'], role := .controller, id_ne := by decide }
    let people : Record := { users with id := ['p'], id_ne := by decide }
    [users, people].Perm [people, users] ∧
      (search .standard [users, people] { limit := some 2 }).map Outcome.view =
        (search .standard [people, users] { limit := some 2 }).map Outcome.view ∧
      (∃ o, search .standard [users, people] { limit := some 2 } = .ok o ∧
        o.total = 2 ∧ o.shown = 2) ∧
      (listRoutes [users, people] {}).map (fun r => (r.path, r.method?)) =
        (listRoutes [people, users] {}).map (fun r => (r.path, r.method?)) := by
  intro users people
  have hperm : [users, people].Perm [people, users] := List.Perm.swap people users []
  obtain ⟨hsearch, hlist⟩ := answers_of_perm _ _ hperm .standard
  obtain ⟨o, ho, hresults, htotal⟩ := search_shows_all .standard [users, people] {} 2
    rfl (by decide) (length_rankedHits_le _ _ _)
  have hlength : o.results.length = 2 := by
    rw [hresults, rankedHits, length_rank]
    rfl
  exact ⟨hperm, (hsearch { limit := some 2 }).1, ⟨o, ho, htotal.trans hlength, hlength⟩,
    (hlist {}).1⟩

end RouteAtlas
