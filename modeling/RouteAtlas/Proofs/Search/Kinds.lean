import Mathlib.Data.List.Perm.Basic
import RouteAtlas.Proofs.Search.Closeness

/-!
# What the kind filter changes

The kind of a search acts twice: it filters the routes, and if nothing but endpoints is wanted it
has two more fields looked at. The first is all that it does to controllers and to literal searches:
their hits are those of the unfiltered search that have the kind, in the same order
(`rankedHits_only`). For endpoints the two more fields can only help: each hit of the unfiltered
search is there again, and if it scores otherwise then it scores more, by its action or its method
(`Hit.RaisedTo`), because the choice leaves a field only for one that scores more.

`kind_filters_agree` compares the outcomes of the three searches, each with room for all its hits.
The kind plays no part in whether a search is refused, for the query becomes a matcher before any
filter is looked at: a pattern that cannot be read is refused in all three alike, and by likeness
none of them is (`exists_matcher_fuzzy`). In a shorter list, endpoints that score more by their
methods may push others out.
-/

namespace RouteAtlas

/-- A hit and what becomes of it when action and method are looked at, too: it stays as it is, or
one of the two scores more. -/
def Hit.RaisedTo (a b : Hit) : Prop :=
  b = a ∨ b.route = a.route ∧ a.score < b.score ∧ (b.field = .action ∨ b.field = .method)

/-- The hits of routes of a kind. -/
def hitsOf (kind : Kind) (hits : List Hit) : List Hit :=
  hits.filter fun hit => hit.route.kind = kind

variable {routes : List Record} {matcher : Matcher}

/-! ## Single hits -/

/-- Among controllers alone a route is found as it is among all routes. -/
theorem Hit.find?_controller (matcher : Matcher) (r : Record) :
    find? matcher (.only .controller) r = find? matcher .all r := by
  cases matcher <;> rfl

/-- Among endpoints alone the best field is the one of all routes, or the action or the method with
a higher score. -/
theorem Hit.raisedTo_best (query : Text) (r : Record) :
    (best .all query r).RaisedTo (best (.only .endpoint) query r) := by
  -- the two more fields come last, so the choice goes on from the best of the others
  have hbest : best (.only .endpoint) query r =
      [ofField query r .action, ofField query r .method].foldl better (best .all query r) := rfl
  rw [hbest]
  rcases (isFirstBest_foldl_better (best .all query r)
      [ofField query r .action, ofField query r .method]).eq_or_lt with heq | ⟨hmem, hlt⟩
  · exact Or.inl heq
  · have hroute : (best .all query r).route = r := by
      obtain ⟨field, -, hfield⟩ := List.mem_map.mp (best_mem .all query r)
      rw [← hfield]
      rfl
    refine Or.inr ⟨?_, hlt, ?_⟩ <;> rcases List.mem_pair.mp hmem with heq | heq <;> rw [heq]
    · exact hroute.symm
    · exact hroute.symm
    · exact Or.inl rfl
    · exact Or.inr rfl

/-- A route that is found among all routes is found among endpoints alone, with a hit raised or the
same. -/
theorem Hit.exists_raisedTo {r : Record} {hit : Hit} (h : find? matcher .all r = some hit) :
    ∃ raised, find? matcher (.only .endpoint) r = some raised ∧ hit.RaisedTo raised := by
  cases matcher with
  | everything => exact ⟨hit, h, Or.inl rfl⟩
  | literal pattern => exact ⟨hit, h, Or.inl rfl⟩
  | fuzzy query =>
    rw [find?_fuzzy] at h
    obtain ⟨rfl, hscore⟩ := fuzzy?_eq_some_iff.mp h
    have hraised := raisedTo_best query r
    refine ⟨best (.only .endpoint) query r, ?_, hraised⟩
    rw [find?_fuzzy, fuzzy?_eq_some_iff]
    rcases hraised with heq | ⟨-, hlt, -⟩
    · exact ⟨rfl, by rwa [heq]⟩
    · exact ⟨rfl, hscore.trans hlt⟩

/-! ## Ranked lists -/

/-- The routes of a kind. -/
def routesOf (kind : Kind) (routes : List Record) : List Record :=
  routes.filter fun r => r.kind = kind

theorem select_all (routes : List Record) : Filter.select {} routes = routes :=
  List.filter_eq_self.mpr fun _ _ => rfl

/-- With a filter by kind those of the kind are. -/
theorem select_only (kind : Kind) (routes : List Record) :
    Filter.select { kind := .only kind } routes = routesOf kind routes := by
  refine List.filter_congr fun r _ => ?_
  have hadmits : Filter.admits { kind := .only kind } r = (kind == r.kind) :=
    Bool.and_true (kind == r.kind)
  rw [hadmits, Bool.eq_iff_iff, beq_iff_eq, decide_eq_true_eq, eq_comm]

/-- The hits that have a kind are the hits of the routes that have it. -/
theorem hitsOf_filterMap_find? (kind : Kind) (wanted : KindFilter) (routes : List Record) :
    hitsOf kind (routes.filterMap (Hit.find? matcher wanted)) =
      (routesOf kind routes).filterMap (Hit.find? matcher wanted) := by
  rw [hitsOf, routesOf, List.filter_filterMap, List.filterMap_filter]
  refine List.filterMap_congr fun r _ => ?_
  cases hfind : Hit.find? matcher wanted r with
  | none => simp
  | some hit => simp [Hit.route_of_find? hfind, Option.filter]

/-- The hits of a kind, as the unfiltered search ranks them. -/
theorem hitsOf_rankedHits (kind : Kind) (routes : List Record) :
    hitsOf kind (rankedHits routes {} matcher) =
      rank ((routesOf kind routes).filterMap (Hit.find? matcher .all)) := by
  rw [hitsOf, rankedHits, filter_rank, select_all]
  exact congrArg rank (hitsOf_filterMap_find? kind .all routes)

/-- The hits are those in the routes of the kind. -/
theorem rankedHits_only_eq (kind : Kind) (routes : List Record) :
    rankedHits routes { kind := .only kind } matcher =
      rank ((routesOf kind routes).filterMap (Hit.find? matcher (.only kind))) := by
  rw [rankedHits, select_only]

/-- A search among routes of one kind that finds each as the unfiltered search does has the hits of
the unfiltered search that have the kind. -/
theorem rankedHits_only {kind : Kind}
    (hfind : ∀ r, Hit.find? matcher (.only kind) r = Hit.find? matcher .all r) :
    rankedHits routes { kind := .only kind } matcher =
      hitsOf kind (rankedHits routes {} matcher) := by
  rw [hitsOf_rankedHits, rankedHits_only_eq, funext hfind]

/-- If whatever is found one way is found another way, related to it, then so are the routes of a
list, each in its turn. -/
theorem sublistForall₂_filterMap {α β : Type} {R : β → β → Prop} {f g : α → Option β}
    (h : ∀ a b, f a = some b → ∃ c, g a = some c ∧ R b c) (l : List α) :
    List.SublistForall₂ R (l.filterMap f) (l.filterMap g) := by
  induction l with
  | nil => exact .nil
  | cons a l ih =>
    cases hf : f a with
    | some b =>
      obtain ⟨c, hc, hR⟩ := h a b hf
      rw [List.filterMap_cons_some hf, List.filterMap_cons_some hc]
      exact .cons hR ih
    | none =>
      rw [List.filterMap_cons_none hf]
      cases hg : g a with
      | some c =>
        rw [List.filterMap_cons_some hg]
        exact .cons_right ih
      | none =>
        rw [List.filterMap_cons_none hg]
        exact ih

/-- The endpoints that the unfiltered search finds are hits of the search among endpoints alone,
each occurrence raised or the same. -/
theorem exists_raised (routes : List Record) (matcher : Matcher) :
    ∃ raised, List.Forall₂ Hit.RaisedTo (hitsOf .endpoint (rankedHits routes {} matcher)) raised ∧
      raised.Subperm (rankedHits routes { kind := .only .endpoint } matcher) := by
  have hrelated : List.SublistForall₂ Hit.RaisedTo
      ((routesOf .endpoint routes).filterMap (Hit.find? matcher .all))
      ((routesOf .endpoint routes).filterMap (Hit.find? matcher (.only .endpoint))) :=
    sublistForall₂_filterMap (fun _ _ => Hit.exists_raisedTo) _
  obtain ⟨found, hfound, hsub⟩ := List.sublistForall₂_iff.mp hrelated
  -- a raised hit may rank higher, so past the sort the hits are compared one by one, not in order
  rw [hitsOf_rankedHits, rankedHits_only_eq]
  obtain ⟨raised, hraised, hperm⟩ := List.perm_comp_forall₂ (rank_perm _) hfound
  exact ⟨raised, hraised, hperm.subperm.trans (hsub.subperm.trans (rank_perm _).symm.subperm)⟩

/-! ## Searches -/

/-- A search for a query among the routes of some kind, with room for a number of hits. -/
def searchAmong (settings : Settings) (routes : List Record) (query : Text) (mode : SearchMode)
    (room : Nat) (kind : KindFilter) : Except SearchFault Outcome :=
  search settings routes { query, filter := { kind }, mode, limit := some (room : Int) }

variable (settings : Settings) {query : Text} {mode : SearchMode} {room : Nat}

/-- With room for as many hits as there are routes, a search shows all its hits. -/
theorem searchAmong_eq_ok (hmatcher : Request.matcher { query, mode } = .ok matcher)
    (hone : 1 ≤ room) (hroom : routes.length ≤ room) (kind : KindFilter) :
    ∃ o, searchAmong settings routes query mode room kind = .ok o ∧
      o.results = rankedHits routes { kind } matcher ∧ o.total = o.results.length := by
  let request : Request := { query, filter := { kind }, mode }
  have hmatcher' : request.matcher = .ok matcher := hmatcher
  exact search_shows_all settings routes request room hmatcher' hone
    ((length_rankedHits_le routes { kind } matcher).trans hroom)

/-- A query that cannot be read is refused for every kind. -/
theorem searchAmong_eq_error {fault : SearchFault}
    (hmatcher : Request.matcher { query, mode } = .error fault) (hone : 1 ≤ room)
    (kind : KindFilter) : searchAmong settings routes query mode room kind = .error fault :=
  search_eq_error (Request.limit?_some { query, filter := { kind }, mode } (by omega)) hmatcher

/-- What the searches for one query among all routes, among controllers and among endpoints answer;
each shows all its hits. -/
structure AnswersByKind (settings : Settings) (routes : List Record) (query : Text)
    (mode : SearchMode) (room : Nat) (all controllers endpoints : Outcome) : Prop where
  all_eq : searchAmong settings routes query mode room .all = .ok all
  controllers_eq : searchAmong settings routes query mode room (.only .controller) = .ok controllers
  endpoints_eq : searchAmong settings routes query mode room (.only .endpoint) = .ok endpoints
  whole : ∀ o ∈ [all, controllers, endpoints], o.total = o.results.length

/-- Otherwise all three searches answer, with all their hits. -/
theorem exists_answersByKind (hmatcher : Request.matcher { query, mode } = .ok matcher)
    (hone : 1 ≤ room) (hroom : routes.length ≤ room) :
    ∃ all controllers endpoints, AnswersByKind settings routes query mode room all controllers
        endpoints ∧
      all.results = rankedHits routes {} matcher ∧
      controllers.results = rankedHits routes { kind := .only .controller } matcher ∧
      endpoints.results = rankedHits routes { kind := .only .endpoint } matcher := by
  have answer := searchAmong_eq_ok settings hmatcher hone hroom
  obtain ⟨all, hall, hhits, htotal⟩ := answer .all
  obtain ⟨controllers, hcontrollers, hhits', htotal'⟩ := answer (.only .controller)
  obtain ⟨endpoints, hendpoints, hhits'', htotal''⟩ := answer (.only .endpoint)
  refine ⟨all, controllers, endpoints, ⟨hall, hcontrollers, hendpoints, ?_⟩, hhits, hhits', hhits''⟩
  simp [htotal, htotal', htotal'']

/-! ## Modes -/

/-- A search by likeness always has something to look for. -/
theorem exists_matcher_fuzzy (query : Text) :
    ∃ matcher, Request.matcher { query, mode := .fuzzy } = .ok matcher := by
  unfold Request.matcher
  split
  next => exact ⟨_, rfl⟩
  next => exact ⟨_, rfl⟩

/-- What a literal search looks for is found among the routes of any kind as among all routes. -/
theorem find?_of_matcher_literal
    (hmatcher : Request.matcher { query, mode := .literal } = .ok matcher) (kind : KindFilter)
    (r : Record) : Hit.find? matcher kind r = Hit.find? matcher .all r := by
  cases matcher with
  | everything => rfl
  | literal pattern => rfl
  | fuzzy query =>
    -- no literal search looks for likeness
    unfold Request.matcher at hmatcher
    split at hmatcher
    next => exact absurd hmatcher (by simp)
    next =>
      dsimp only at hmatcher
      split at hmatcher <;> exact absurd hmatcher (by simp)

/-- Every hit is of one of the two kinds. -/
theorem perm_hitsOf_append (hits : List Hit) :
    hits.Perm (hitsOf .controller hits ++ hitsOf .endpoint hits) := by
  have hendpoint : hitsOf .endpoint hits =
      hits.filter fun hit => !decide (hit.route.kind = .controller) := by
    refine List.filter_congr fun hit _ => ?_
    cases hit.route.kind <;> rfl
  rw [hendpoint]
  exact (List.filter_append_perm _ hits).symm

/-- **The kind filters agree with each other.** Of the searches for one query among all routes,
among controllers and among endpoints, each with room for all its hits: by likeness, the second
shows the controllers that the first shows, by the same hits in the same order, and the third shows
every endpoint that the first shows, by the same hit or by one that scores more and is of its action
or its method. By a pattern the second and the third show, by the same hits in the same order, the
controllers and the endpoints that the first shows, and so all of it; if the query cannot be read as
a pattern, all three are refused for that. -/
theorem kind_filters_agree (settings : Settings) (routes : List Record) (query : Text) (room : Nat)
    (hone : 1 ≤ room) (hroom : routes.length ≤ room) :
    (∃ all controllers endpoints,
      AnswersByKind settings routes query .fuzzy room all controllers endpoints ∧
      controllers.results = hitsOf .controller all.results ∧
      ∃ raised, List.Forall₂ Hit.RaisedTo (hitsOf .endpoint all.results) raised ∧
        raised.Subperm endpoints.results) ∧
    ((∃ fault, Pattern.read query = .error fault ∧
        ∀ kind, searchAmong settings routes query .literal room kind =
          .error (.noPattern query fault)) ∨
      ∃ all controllers endpoints,
        AnswersByKind settings routes query .literal room all controllers endpoints ∧
        controllers.results = hitsOf .controller all.results ∧
        endpoints.results = hitsOf .endpoint all.results ∧
        all.results.Perm (controllers.results ++ endpoints.results)) := by
  constructor
  · obtain ⟨matcher, hmatcher⟩ := exists_matcher_fuzzy query
    obtain ⟨all, controllers, endpoints, hanswers, hall, hcontrollers, hendpoints⟩ :=
      exists_answersByKind settings hmatcher hone hroom
    refine ⟨all, controllers, endpoints, hanswers, ?_, ?_⟩
    · rw [hcontrollers, hall]
      exact rankedHits_only (Hit.find?_controller matcher)
    · rw [hendpoints, hall]
      exact exists_raised routes matcher
  · -- A pattern may be refused, and then it is by all three.
    cases hmatcher : Request.matcher { query, mode := .literal } with
    | error fault =>
      obtain ⟨-, cause, hread, rfl⟩ := Request.matcher_eq_error hmatcher
      exact Or.inl ⟨cause, hread, searchAmong_eq_error settings hmatcher hone⟩
    | ok matcher =>
      obtain ⟨all, controllers, endpoints, hanswers, hall, hcontrollers, hendpoints⟩ :=
        exists_answersByKind settings hmatcher hone hroom
      have hfind := find?_of_matcher_literal hmatcher
      rw [rankedHits_only (hfind _), ← hall] at hcontrollers hendpoints
      refine Or.inr ⟨all, controllers, endpoints, hanswers, hcontrollers, hendpoints, ?_⟩
      rw [hcontrollers, hendpoints]
      exact perm_hitsOf_append all.results

/-- An endpoint whose path ends with the query, and a controller: room for two is enough. By
likeness the endpoint is shown by the first search, and so by the third; as a pattern the query is
found in its path, and in nothing of the controller. -/
theorem kind_filters_agree_on_action :
    let users : Record :=
      { id := ['u'], path := "/users".toList, source := ⟨['f'], 1, by decide⟩,
        controller := "Users".toList, role := .controller, id_ne := by decide }
    let purged : Record :=
      { users with id := ['p'], path := "/users/purge".toList,
                   role := .endpoint .post "Purge".toList (by decide), id_ne := by decide }
    1 ≤ 2 ∧ [users, purged].length ≤ 2 ∧
      (∃ all controllers endpoints,
        AnswersByKind .standard [users, purged] "purge".toList .fuzzy 2 all controllers endpoints ∧
        purged ∈ all.results.map Hit.route ∧
        controllers.results = hitsOf .controller all.results ∧
        ∃ raised, List.Forall₂ Hit.RaisedTo (hitsOf .endpoint all.results) raised ∧
          raised.Subperm endpoints.results) ∧
      ∃ all controllers endpoints,
        AnswersByKind .standard [users, purged] "purge".toList .literal 2 all controllers
          endpoints ∧
        all.results = [⟨purged, 1000, .path, "/users/purge".toList⟩] ∧
        controllers.results = hitsOf .controller all.results ∧
        endpoints.results = hitsOf .endpoint all.results ∧
        all.results.Perm (controllers.results ++ endpoints.results) := by
  intro users purged
  have hone : 1 ≤ 2 := by decide
  have hroom : [users, purged].length ≤ 2 := by decide
  obtain ⟨⟨all, controllers, endpoints, hanswers, hfuzzy⟩, hliteral⟩ :=
    kind_filters_agree .standard [users, purged] "purge".toList 2 hone hroom
  refine ⟨hone, hroom, ⟨all, controllers, endpoints, hanswers, ?_, hfuzzy⟩, ?_⟩
  · have hmatcher : Request.matcher { query := "purge".toList } = .ok (.fuzzy "purge".toList) :=
      Request.matcher_fuzzy rfl (by decide)
    obtain ⟨o, ho, hresults, -⟩ := searchAmong_eq_ok .standard hmatcher hone hroom .all
    obtain rfl := Except.ok.inj (ho.symm.trans hanswers.all_eq)
    have hfound : (Hit.find? (.fuzzy "purge".toList) .all purged).isSome = true :=
      Hit.isSome_fuzzy?_of_pathGroup_lt .all (by decide) (by decide)
    rw [hresults, (map_route_rankedHits_perm _ _ _).mem_iff]
    exact List.mem_filter.mpr ⟨List.mem_filter.mpr ⟨by simp, rfl⟩, hfound⟩
  · rcases hliteral with ⟨fault, hread, -⟩ | ⟨all, controllers, endpoints, hanswers, hrest⟩
    · have hpattern : (Pattern.read "purge".toList).isOk = true := by decide +kernel
      rw [hread] at hpattern
      exact absurd hpattern Bool.false_ne_true
    · refine ⟨all, controllers, endpoints, hanswers, ?_, hrest⟩
      have hsearch : (searchAmong .standard [users, purged] "purge".toList .literal 2 .all).map
          Outcome.results = .ok [⟨purged, 1000, .path, "/users/purge".toList⟩] := by
        decide +kernel
      rw [hanswers.all_eq] at hsearch
      exact Except.ok.inj hsearch

end RouteAtlas
