import RouteAtlas.Proofs.Search.Shown
import RouteAtlas.Proofs.Text.Case

/-!
# What a method filter lets through

A filter that names a method admits endpoints of that method alone, whatever the case of its letters
and the blanks around it (`Filter.admits_iff`), and so do listings and searches under it. A filter
of blanks alone names no method. It is not refused, and every route passes it, controllers among
them, as if no method had been given (`Filter.select_of_blank`); only a search takes it for one and
looks at endpoints alone. `method_filter_law` says both.
-/

namespace RouteAtlas

/-! ## Methods of routes -/

/-- The route is an endpoint, and its method is the one named, ignoring case and the blanks around
the name. -/
def Record.HasMethod (name : Text) (r : Record) : Prop :=
  r.kind = .endpoint ∧
    ∃ method : Method, r.method? = some method ∧
      Text.upper method.name = Text.upper (Text.trim name)

theorem Method.upper_name (method : Method) : Text.upper method.name = method.name := by
  cases method <;> decide

theorem Record.hasMethod_iff {r : Record} {name : Text} (hname : Text.trim name ≠ []) :
    r.HasMethod name ↔ r.methodName = Text.upper (Text.trim name) := by
  have hupper : Text.upper (Text.trim name) ≠ [] := mt Text.upper_eq_nil_iff.mp hname
  rw [HasMethod, methodName, method?, kind]
  cases r.role with
  | controller => simp [hupper.symm]
  | endpoint method action action_ne => simp [Method.upper_name]

namespace Filter

variable {filter : Filter} {r : Record}

theorem isEmpty_wantedMethod :
    filter.wantedMethod.isEmpty = true ↔ Text.trim filter.method = [] := by
  rw [List.isEmpty_iff, wantedMethod, Text.upper_eq_nil_iff]

/-- A filter that names a method admits the endpoints of that method. -/
theorem admits_iff (hmethod : Text.trim filter.method ≠ []) :
    filter.admits r = true ↔ filter.kind.admits r.kind = true ∧ r.HasMethod filter.method := by
  have hwanted : filter.wantedMethod.isEmpty = false :=
    Bool.eq_false_iff.mpr (mt isEmpty_wantedMethod.mp hmethod)
  rw [admits, hwanted, Bool.false_or, Bool.and_eq_true, beq_iff_eq, Record.hasMethod_iff hmethod,
    wantedMethod]

theorem hasMethod_of_mem_select {routes : List Record} (hmethod : Text.trim filter.method ≠ [])
    (h : r ∈ filter.select routes) : r.HasMethod filter.method :=
  ((admits_iff hmethod).mp (List.mem_filter.mp h).2).2

/-- A filter whose method is blank selects as one without a method. -/
theorem select_of_blank (hmethod : Text.trim filter.method = []) (routes : List Record) :
    filter.select routes = select { kind := filter.kind } routes := by
  refine List.filter_congr fun r _ => ?_
  rw [admits, admits, isEmpty_wantedMethod.mpr hmethod, isEmpty_wantedMethod.mpr rfl, Bool.true_or,
    Bool.true_or]

end Filter

/-! ## Blank methods -/

/-- A search keeps the method that it was given. -/
theorem Request.method_plainFilter (request : Request) :
    request.plainFilter.method = request.filter.method := by
  unfold plainFilter
  split <;> rfl

/-- A search that is given a method, blank or not, looks at endpoints alone. -/
theorem Request.kind_plainFilter {request : Request} (h : request.filter.method ≠ []) :
    request.plainFilter.kind = .only .endpoint := by
  rw [plainFilter, if_neg (by rwa [List.isEmpty_iff])]

/-- A search for a blank method has the hits of a search for all endpoints. -/
theorem rankedHits_of_blank {request : Request} (hgiven : request.filter.method ≠ [])
    (hblank : Text.trim request.filter.method = []) (routes : List Record) (matcher : Matcher) :
    rankedHits routes request.plainFilter matcher =
      rankedHits routes { kind := .only .endpoint } matcher := by
  rw [rankedHits, rankedHits, Filter.select_of_blank (by rwa [Request.method_plainFilter]),
    Request.kind_plainFilter hgiven]

/-- A search for a blank method finds what a search for all endpoints finds. -/
theorem search_of_blank (settings : Settings) (routes : List Record) {request : Request}
    (hgiven : request.filter.method ≠ []) (hblank : Text.trim request.filter.method = []) :
    (search settings routes request).map (fun o => (o.total, o.results)) =
      (search settings routes { request with filter := { kind := .only .endpoint } }).map
        fun o => (o.total, o.results) := by
  set endpoints : Request := { request with filter := { kind := .only .endpoint } }
  have hlimit' : endpoints.limit? = request.limit? := rfl
  have hmatcher' : endpoints.matcher = request.matcher := rfl
  cases hlimit : request.limit? with
  | error fault =>
    rw [search_eq_error_of_limit? hlimit, search_eq_error_of_limit? (hlimit'.trans hlimit)]
  | ok limit =>
    cases hmatcher : request.matcher with
    | error fault =>
      rw [search_eq_error hlimit hmatcher,
        search_eq_error (hlimit'.trans hlimit) (hmatcher'.trans hmatcher)]
    | ok matcher =>
      rw [search_eq_ok hlimit hmatcher,
        search_eq_ok (hlimit'.trans hlimit) (hmatcher'.trans hmatcher),
        rankedHits_of_blank hgiven hblank]
      rfl

/-! ## The method filter -/

/-- **A method filter that names a method lets nothing else through**: every route that is selected,
listed or found under it is an endpoint of that method. A blank one lets all methods through: routes
are selected and listed as without a method, and a search finds what it finds among all
endpoints. -/
theorem method_filter_law (routes : List Record) (filter : Filter) :
    (Text.trim filter.method ≠ [] →
      (∀ r ∈ filter.select routes, r.HasMethod filter.method) ∧
      (∀ path, ∀ r ∈ listRoutes routes { filter, path }, r.HasMethod filter.method) ∧
      ∀ (settings : Settings) (request : Request) (o : Outcome), request.filter = filter →
        search settings routes request = .ok o →
        ∀ hit ∈ o.results, hit.route.HasMethod filter.method) ∧
    (Text.trim filter.method = [] →
      filter.select routes = Filter.select { kind := filter.kind } routes ∧
      (∀ path, listRoutes routes { filter, path } =
        listRoutes routes { filter := { kind := filter.kind }, path }) ∧
      ∀ (settings : Settings) (request : Request), request.filter = filter → filter.method ≠ [] →
        (search settings routes request).map (fun o => (o.total, o.results)) =
          (search settings routes { request with filter := { kind := .only .endpoint } }).map
            fun o => (o.total, o.results)) := by
  refine ⟨fun hmethod => ⟨?_, ?_, ?_⟩, fun hmethod => ⟨?_, ?_, ?_⟩⟩
  · exact fun r hr => Filter.hasMethod_of_mem_select hmethod hr
  · intro path r hr
    have hselected := (List.mem_filter.mp (List.mem_mergeSort.mp hr)).1
    exact Filter.hasMethod_of_mem_select hmethod hselected
  · rintro settings request o rfl hsearch hit hhit
    obtain ⟨count, matcher, -, ho⟩ := showsFirst_of_search hsearch
    rw [ho.results] at hhit
    have hselected := (find?_of_mem_rankedHits (List.mem_of_mem_take hhit)).1
    rw [← request.method_plainFilter] at hmethod ⊢
    exact Filter.hasMethod_of_mem_select hmethod hselected
  · exact Filter.select_of_blank hmethod routes
  · intro path
    rw [listRoutes, listRoutes, Filter.select_of_blank hmethod]
  · rintro settings request rfl hgiven
    exact search_of_blank settings routes hgiven hmethod

/-- A padded name in mixed case is a method, and the controller and the other endpoint are left
out. -/
theorem method_filter_law_padded :
    let users : Record :=
      { id := ['u'], path := "/users".toList, source := ⟨['f'], 1, by decide⟩,
        controller := ['U'], role := .controller, id_ne := by decide }
    let added : Record :=
      { users with id := ['a'], role := .endpoint .post ['A'] (by decide), id_ne := by decide }
    let listed : Record :=
      { users with id := ['l'], role := .endpoint .get ['L'] (by decide), id_ne := by decide }
    let given : Filter := { method := " pOsT\t".toList }
    Text.trim given.method ≠ [] ∧ given.select [users, added, listed] = [added] ∧
      added.HasMethod given.method := by
  intro users added listed given
  have hmethod : Text.trim given.method ≠ [] := by decide
  have hselect : given.select [users, added, listed] = [added] := by decide
  obtain ⟨hselected, -, -⟩ := (method_filter_law [users, added, listed] given).1 hmethod
  exact ⟨hmethod, hselect, hselected added (by rw [hselect]; exact List.mem_singleton_self added)⟩

/-- A filter of blanks lets a controller through, in selections and in listings, and a search under
it finds an endpoint whose method no one would call blank. -/
theorem method_filter_of_blanks :
    let users : Record :=
      { id := ['u'], path := "/users".toList, source := ⟨['f'], 1, by decide⟩,
        controller := ['U'], role := .controller, id_ne := by decide }
    let listed : Record :=
      { users with id := ['l'], role := .endpoint .get ['L'] (by decide), id_ne := by decide }
    let given : Filter := { method := "  ".toList }
    given.method ≠ [] ∧
      (users ∈ given.select [users, listed] ∧
        users ∈ listRoutes [users, listed] { filter := given } ∧
        ¬ users.HasMethod given.method) ∧
      (∃ o, search .standard [users, listed] { filter := given, limit := some 1 } = .ok o ∧
        ∃ hit ∈ o.results, hit.route = listed) ∧
      ¬ listed.HasMethod given.method := by
  intro users listed given
  have hselect : given.select [users, listed] = [users, listed] := by decide
  have hname : ∀ r : Record, ¬ r.HasMethod given.method := by
    rintro r ⟨-, method, -, hmethod⟩
    rw [Method.upper_name] at hmethod
    cases method <;> exact absurd hmethod (by decide)
  refine ⟨by decide, ⟨?_, ?_, hname users⟩, ?_, hname listed⟩
  · rw [hselect]
    exact List.mem_cons_self
  · exact List.mem_mergeSort.mpr (by rw [hselect]; decide)
  · -- a single route is found, so no sort has to be followed
    have hfound : (((Request.plainFilter { filter := given }).select [users, listed]).filter
        fun r => (Hit.find? .everything (.only .endpoint) r).isSome) = [listed] := by decide
    have hroutes := map_route_rankedHits_perm [users, listed]
      (Request.plainFilter { filter := given }) .everything
    obtain ⟨hit, hranked, hroute⟩ := List.map_eq_singleton_iff.mp
      (List.perm_singleton.mp (hroutes.trans (.of_eq hfound)))
    let request : Request := { filter := given, limit := some 1 }
    have hlimit : request.limit? = .ok (some 1) := rfl
    have hmatcher : request.matcher = .ok .everything := rfl
    have hplain : request.plainFilter = Request.plainFilter { filter := given } := rfl
    obtain ⟨o, hsearch, ho⟩ := search_showsFirst .standard [users, listed] hlimit hmatcher
    have hresults := ho.results
    rw [hplain, hranked] at hresults
    exact ⟨o, hsearch, hit, by rw [hresults]; exact List.mem_singleton_self hit, hroute⟩

end RouteAtlas
