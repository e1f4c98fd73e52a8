import RouteAtlas.Proofs.Number.Rounding
import RouteAtlas.Proofs.Search.Ranking

/-!
# What is shown of a ranked list

A search with a limit cuts its ranked list after so many hits; a search without one
filters it by score. Both show a beginning of the same list: scores descend along it,
so the hits above the cutoff are the first ones (`shape_eq_take`). The first hit is
always above its own cutoff (`isAboveCutoff_self`), because a proper ratio of a
positive score stays below that score even after rounding; so a search that found
something shows something.

`search_shows_one_ranked_list` puts this together for all limits and settings at once.
The one list is `rankedHits` of the request's filter and matcher, which depend on neither;
the only requests without a list are those whose query is to be a pattern and cannot be
read as one (`Request.matcher_eq_error`). A ratio that is not a number passes for a
setting but lies in no interval; under it no score is above the cutoff and nothing is
shown (`shownCount_nan`).
-/

namespace RouteAtlas

/-! ## The cutoff -/

/-- The ratio lies strictly between 0 and 1. -/
def Binary64.IsProper (ratio : Binary64) : Prop :=
  ratio.greaterThan 0 1 = true ∧ ratio.lessThan 1 1 = true

/-- A proper ratio is a positive finite number less than 1. -/
theorem Binary64.IsProper.exists_size {ratio : Binary64} (h : ratio.IsProper) :
    ∃ size : Scaled, size.toRat < 1 ∧
      ratio.fraction? = some ((size.fraction.1 : Int), size.fraction.2) := by
  obtain ⟨hpos, hlt⟩ := h
  match ratio, hpos, hlt with
  | .nan, hpos, _ => exact absurd hpos (by decide)
  | .infinite negative, hpos, hlt => cases negative <;> simp [greaterThan, lessThan] at hpos hlt
  | .finite true size, hpos, _ =>
    have hneg : (0 : Int) * size.fraction.2 < -(size.fraction.1 : Int) * 1 := of_decide_eq_true hpos
    omega
  | .finite false size, _, hlt =>
    refine ⟨size, ?_, rfl⟩
    have hnum : (size.fraction.1 : Int) * (1 : Nat) < 1 * size.fraction.2 := of_decide_eq_true hlt
    have hden : (0 : ℚ) < size.fraction.2 := by
      have : 0 < size.fraction.2 := by omega
      exact_mod_cast this
    change mkRat size.fraction.1 size.fraction.2 < 1
    rw [Rat.mkRat_eq_div, div_lt_one hden]
    have : size.fraction.1 < size.fraction.2 := by omega
    exact_mod_cast this

/-- The best score is above its own cutoff. -/
theorem isAboveCutoff_self {ratio : Binary64} {top : Nat} (h : ratio.IsProper) (htop : 0 < top) :
    isAboveCutoff ratio top top = true := by
  obtain ⟨size, hlt, hfraction⟩ := h.exists_size
  simp only [isAboveCutoff, hfraction, decide_eq_true_eq]
  exact rounded_natCast_mul_lt htop hlt

/-- What is above the cutoff stays above it with a higher score. -/
theorem isAboveCutoff_mono {ratio : Binary64} {top score score' : Nat}
    (h : isAboveCutoff ratio top score = true) (hle : score ≤ score') :
    isAboveCutoff ratio top score' = true := by
  unfold isAboveCutoff at h ⊢
  split
  next hfraction =>
    rw [hfraction] at h
    have hscore : (score : ℚ) ≤ score' := by exact_mod_cast hle
    exact decide_eq_true ((of_decide_eq_true h).trans_le hscore)
  next hfraction =>
    rw [hfraction] at h
    exact h

/-! ## The shape of an answer -/

/-- How many hits of a ranked list are shown. -/
def shownCount (settings : Settings) (limit : Option Nat) (ranked : List Hit) : Nat :=
  match limit with
  | some n => min n ranked.length
  | none =>
    min settings.maxResults
      (ranked.countP fun hit => isAboveCutoff settings.cutoffRatio (topScore ranked) hit.score)

/-- Whatever the limit and the settings, a beginning of the ranked list is shown. -/
theorem shape_eq_take {ranked : List Hit}
    (hranked : ranked.Pairwise fun a b => b.score ≤ a.score) (settings : Settings)
    (limit : Option Nat) :
    shape settings limit ranked = ranked.take (shownCount settings limit ranked) := by
  cases limit with
  | some n => rw [shape, shownCount, List.take_eq_take_min]
  | none =>
    rw [shape, shownCount, filter_eq_take_countP, List.take_take]
    exact hranked.imp fun hle h => isAboveCutoff_mono h hle

/-- Something is shown of a ranked list that is not empty, unless it is cut off at a ratio that
is not a proper one. -/
theorem shownCount_pos {settings : Settings} {limit : Option Nat} {ranked : List Hit}
    (hlimit : ∀ n ∈ limit, 0 < n) (hratio : limit = none → settings.cutoffRatio.IsProper)
    (hpos : ∀ hit ∈ ranked, 0 < hit.score) (hne : ranked ≠ []) :
    0 < shownCount settings limit ranked := by
  cases limit with
  | some n => exact lt_min (hlimit n rfl) (List.length_pos_iff.mpr hne)
  | none =>
    obtain ⟨best, hmem, hbest⟩ := exists_score_eq_topScore hne hpos
    refine lt_min settings.maxResults_pos (List.countP_pos_iff.mpr ⟨best, hmem, ?_⟩)
    rw [hbest]
    exact isAboveCutoff_self (hratio rfl) (hbest ▸ hpos best hmem)

/-- The outcome shows so many hits of a ranked list, from its beginning on, counts all of them as
matches, and has more exactly if some are not shown. -/
structure Outcome.ShowsFirst (o : Outcome) (count : Nat) (ranked : List Hit) : Prop where
  results : o.results = ranked.take count
  total : o.total = ranked.length
  hasMore : o.hasMore = true ↔ o.results ≠ ranked

/-! ## Searches -/

theorem Request.limit?_none (request : Request) :
    Request.limit? { request with limit := none } = .ok none := rfl

theorem Request.limit?_some (request : Request) {n : Int} (hn : 1 ≤ n) :
    Request.limit? { request with limit := some n } = .ok (some n.toNat) :=
  if_neg (not_lt.mpr hn)

/-- A limit is refused if it is below 1. -/
theorem Request.limit?_cases (request : Request) :
    (∃ n, request.limit = some n ∧ n < 1 ∧ request.limit? = .error (.limitTooSmall n)) ∨
      ∃ limit, request.limit? = .ok limit := by
  cases hlimit : request.limit with
  | none => exact Or.inr ⟨none, by rw [limit?, hlimit]⟩
  | some n =>
    by_cases hn : n < 1
    · exact Or.inl ⟨n, rfl, hn, by rw [limit?, hlimit]; exact if_pos hn⟩
    · exact Or.inr ⟨some n.toNat, by rw [limit?, hlimit]; exact if_neg hn⟩

/-- A query that is not blank is looked for as it is. -/
theorem Request.plainQuery_eq {request : Request} (hquery : Text.trim request.query ≠ []) :
    request.plainQuery = request.query ∧ request.plainQuery.isEmpty = false := by
  have hplain : request.plainQuery = request.query :=
    if_neg (by rwa [List.isEmpty_iff])
  refine ⟨hplain, ?_⟩
  rw [hplain, Bool.eq_false_iff, ne_eq, List.isEmpty_iff]
  intro hnil
  rw [hnil] at hquery
  exact hquery rfl

/-- What is looked for by likeness is the query, unless it is blank. -/
theorem Request.matcher_fuzzy {request : Request} (hmode : request.mode = .fuzzy)
    (hquery : Text.trim request.query ≠ []) : request.matcher = .ok (.fuzzy request.query) := by
  obtain ⟨hplain, hempty⟩ := plainQuery_eq hquery
  rw [matcher, hempty, hmode, hplain]
  rfl

/-- What is looked for by a pattern is the one that the query spells, unless it is blank. -/
theorem Request.matcher_literal {request : Request} {matcher : Matcher}
    (hmode : request.mode = .literal) (hquery : Text.trim request.query ≠ [])
    (h : request.matcher = .ok matcher) :
    ∃ pattern, Pattern.read request.query = .ok pattern ∧ matcher = .literal pattern := by
  obtain ⟨hplain, hempty⟩ := plainQuery_eq hquery
  rw [Request.matcher, hempty, hmode, hplain] at h
  cases hread : Pattern.read request.query with
  | error fault => simp [hread] at h
  | ok pattern =>
    simp only [hread, Bool.false_eq_true, if_false, Except.ok.injEq] at h
    exact ⟨pattern, rfl, h.symm⟩

/-- What is looked for is the query as it is, or nothing in particular. -/
theorem Request.plainQuery_cases (request : Request) :
    request.plainQuery = [] ∨ request.plainQuery = request.query := by
  rw [plainQuery]
  split
  next => exact Or.inl rfl
  next => exact Or.inr rfl

/-- There is always something to look for, unless the query is to be a pattern and is none. -/
theorem Request.matcher_eq_error {request : Request} {fault : SearchFault}
    (h : request.matcher = .error fault) :
    request.mode = .literal ∧ ∃ cause, Pattern.read request.query = .error cause ∧
      fault = .noPattern request.query cause := by
  unfold Request.matcher at h
  split at h
  next => exact absurd h (by simp)
  next hne =>
    have hplain : request.plainQuery = request.query := by
      rcases request.plainQuery_cases with hnil | hplain
      · rw [hnil] at hne
        exact absurd rfl hne
      · exact hplain
    rw [hplain] at h
    split at h
    next => exact absurd h (by simp)
    next hmode =>
      split at h
      next => exact absurd h (by simp)
      next cause hread => exact ⟨hmode, cause, hread, (Except.error.inj h).symm⟩

/-- What a search answers whose request is in order. -/
theorem search_eq_ok {settings : Settings} {routes : List Record} {request : Request}
    {limit : Option Nat} {matcher : Matcher} (hlimit : request.limit? = .ok limit)
    (hmatcher : request.matcher = .ok matcher) :
    search settings routes request = .ok
      { query := request.plainQuery
        mode := request.mode
        kind := request.plainFilter.kind
        method := if request.plainFilter.method.isEmpty then none
          else some (Text.upper request.plainFilter.method)
        results := shape settings limit (rankedHits routes request.plainFilter matcher)
        total := (rankedHits routes request.plainFilter matcher).length } := by
  rw [search, hlimit, hmatcher]
  rfl

/-- A search whose limit is refused is refused, whatever it is made over. -/
theorem search_eq_error_of_limit? {settings : Settings} {routes : List Record} {request : Request}
    {fault : SearchFault} (hlimit : request.limit? = .error fault) :
    search settings routes request = .error fault := by
  rw [search, hlimit]
  rfl

/-- A search whose query is no pattern is refused, whatever it is made over. -/
theorem search_eq_error {settings : Settings} {routes : List Record} {request : Request}
    {limit : Option Nat} {fault : SearchFault} (hlimit : request.limit? = .ok limit)
    (hmatcher : request.matcher = .error fault) :
    search settings routes request = .error fault := by
  rw [search, hlimit, hmatcher]
  rfl

/-- A search whose request is in order shows the first hits of its ranked list. -/
theorem search_showsFirst (settings : Settings) (routes : List Record) {request : Request}
    {limit : Option Nat} {matcher : Matcher} (hlimit : request.limit? = .ok limit)
    (hmatcher : request.matcher = .ok matcher) :
    ∃ o, search settings routes request = .ok o ∧
      o.ShowsFirst
        (shownCount settings limit (rankedHits routes request.plainFilter matcher))
        (rankedHits routes request.plainFilter matcher) := by
  refine ⟨_, search_eq_ok hlimit hmatcher, ?_⟩
  have hshape := shape_eq_take (pairwise_score_rank ((request.plainFilter.select routes).filterMap
    (Hit.find? matcher request.plainFilter.kind))) settings limit
  refine ⟨hshape, rfl, ?_⟩
  rw [Outcome.hasMore, Outcome.shown, decide_eq_true_eq]
  dsimp only
  rw [rankedHits, hshape, List.length_take]
  constructor
  · intro hlt heq
    rw [← List.length_take, heq] at hlt
    exact lt_irrefl _ hlt
  · intro hne
    by_contra hge
    exact hne (List.take_of_length_le (by omega))

/-- A search with room for its ranked list shows all of it. -/
theorem search_shows_all (settings : Settings) (routes : List Record) (request : Request)
    (limit : Nat) {matcher : Matcher} (hmatcher : request.matcher = .ok matcher)
    (hone : 1 ≤ limit)
    (hroom : (rankedHits routes request.plainFilter matcher).length ≤ limit) :
    ∃ o, search settings routes { request with limit := some (limit : Int) } = .ok o ∧
      o.results = rankedHits routes request.plainFilter matcher ∧ o.total = o.results.length := by
  obtain ⟨o, hsearch, ho⟩ := search_showsFirst settings routes
    (request.limit?_some (n := limit) (by omega)) hmatcher
  have hresults : o.results = rankedHits routes request.plainFilter matcher := by
    rw [ho.results, shownCount]
    exact List.take_of_length_le (le_min hroom le_rfl)
  exact ⟨o, hsearch, hresults, by rw [hresults]; exact ho.total⟩

/-- Whatever a search answers with shows the first hits of a ranked list. -/
theorem showsFirst_of_search {settings : Settings} {routes : List Record} {request : Request}
    {o : Outcome} (h : search settings routes request = .ok o) :
    ∃ count matcher, request.matcher = .ok matcher ∧
      o.ShowsFirst count (rankedHits routes request.plainFilter matcher) := by
  cases hlimit : request.limit? with
  | error fault =>
    rw [search_eq_error_of_limit? hlimit] at h
    exact absurd h (by simp)
  | ok limit =>
    cases hmatcher : request.matcher with
    | error fault =>
      rw [search_eq_error hlimit hmatcher] at h
      exact absurd h (by simp)
    | ok matcher =>
      obtain ⟨_, hsearch, ho⟩ := search_showsFirst settings routes hlimit hmatcher
      obtain rfl := Except.ok.inj (hsearch.symm.trans h)
      exact ⟨_, matcher, rfl, ho⟩

/-- A search by likeness is refused for its limit, or it shows the first hits of its ranked list. -/
theorem search_fuzzy_cases (settings : Settings) (routes : List Record) (query : Text)
    (filter : Filter) (limit : Option Int) (hquery : Text.trim query ≠ []) :
    (∃ n, limit = some n ∧ n < 1 ∧
        search settings routes { query, filter, limit } = .error (.limitTooSmall n)) ∨
      ∃ o count, search settings routes { query, filter, limit } = .ok o ∧
        o.ShowsFirst count (rankedHits routes (Request.plainFilter { filter }) (.fuzzy query)) := by
  have hmatcher : Request.matcher { query, filter, limit } = .ok (.fuzzy query) :=
    Request.matcher_fuzzy rfl hquery
  rcases Request.limit?_cases { query, filter, limit } with ⟨n, hn, hlt, hlimit⟩ | ⟨_, hlimit⟩
  · exact Or.inl ⟨n, hn, hlt, search_eq_error_of_limit? hlimit⟩
  · obtain ⟨o, hsearch, ho⟩ := search_showsFirst settings routes hlimit hmatcher
    exact Or.inr ⟨o, _, hsearch, ho⟩

/-- Of a list that is not empty, a number of first hits that is not 0 is not empty. -/
theorem Outcome.ShowsFirst.results_ne_nil {o : Outcome} {count : Nat} {ranked : List Hit}
    (h : o.ShowsFirst count ranked) (hcount : 0 < count) (hne : ranked ≠ []) : o.results ≠ [] := by
  intro hnil
  rw [h.results, List.take_eq_nil_iff] at hnil
  exact hnil.elim hcount.ne' hne

/-- Under a ratio that is not a number nothing is above the cutoff. -/
theorem shownCount_nan {settings : Settings} (hratio : settings.cutoffRatio = .nan)
    (ranked : List Hit) : shownCount settings none ranked = 0 := by
  have hnone : ∀ hit ∈ ranked,
      ¬isAboveCutoff settings.cutoffRatio (topScore ranked) hit.score = true := by
    intro hit _
    rw [hratio]
    exact Bool.false_ne_true
  rw [shownCount, List.countP_eq_zero.mpr hnone, Nat.min_zero]

/-- **One ranked list.** For given routes, query, filter and mode there is one list of hits, which
is what the filter admits and the matcher finds, scores descending; unless the query is to be a
pattern and cannot be read as one, and then every search is refused for that. Whatever the settings,
a search with a limit shows the first hits of the list up to the limit, and a search without one
shows its first hits up to the number of those above the cutoff, or up to the most results. Larger
limits show extensions. If there is a match, something is shown, provided that the ratio is a proper
one. -/
theorem search_shows_one_ranked_list (routes : List Record) (request : Request) :
    (∃ fault, request.mode = .literal ∧ Pattern.read request.query = .error fault ∧
      ∀ (settings : Settings) (limit : Option Int), (∀ n ∈ limit, 1 ≤ n) →
        search settings routes { request with limit } =
          .error (.noPattern request.query fault)) ∨
    ∃ (matcher : Matcher) (ranked : List Hit),
      request.matcher = .ok matcher ∧
      ranked = rankedHits routes request.plainFilter matcher ∧
      ranked.Perm ((request.plainFilter.select routes).filterMap
        (Hit.find? matcher request.plainFilter.kind)) ∧
      ranked.Pairwise (fun a b => b.score ≤ a.score) ∧
      ∀ settings : Settings,
        (∀ n : Nat, 1 ≤ n →
          ∃ o, search settings routes { request with limit := some (n : Int) } = .ok o ∧
            o.ShowsFirst (min n ranked.length) ranked ∧ (ranked ≠ [] → o.results ≠ [])) ∧
        (∃ o, search settings routes { request with limit := none } = .ok o ∧
          o.ShowsFirst
            (min settings.maxResults (ranked.countP fun hit =>
              isAboveCutoff settings.cutoffRatio (topScore ranked) hit.score))
            ranked ∧
          (settings.cutoffRatio.IsProper → ranked ≠ [] → o.results ≠ []) ∧
          (settings.cutoffRatio = .nan → o.results = [])) ∧
        ∀ (m n : Nat) (o o' : Outcome), 1 ≤ m → m ≤ n →
          search settings routes { request with limit := some (m : Int) } = .ok o →
          search settings routes { request with limit := some (n : Int) } = .ok o' →
          o.results <+: o'.results := by
  cases hmatcher : request.matcher with
  | error fault =>
    obtain ⟨hmode, cause, hread, rfl⟩ := Request.matcher_eq_error hmatcher
    refine Or.inl ⟨cause, hmode, hread, fun settings limit hlimit => ?_⟩
    cases limit with
    | none => exact search_eq_error request.limit?_none hmatcher
    | some n => exact search_eq_error (request.limit?_some (hlimit n rfl)) hmatcher
  | ok matcher =>
    have hpos : ∀ hit ∈ rankedHits routes request.plainFilter matcher, 0 < hit.score :=
      fun hit => score_pos_of_mem_rankedHits
    have limited : ∀ (settings : Settings) (n : Nat), 1 ≤ n →
        ∃ o, search settings routes { request with limit := some (n : Int) } = .ok o ∧
          o.ShowsFirst (min n (rankedHits routes request.plainFilter matcher).length)
            (rankedHits routes request.plainFilter matcher) := by
      intro settings n hn
      exact search_showsFirst settings routes (request.limit?_some (by omega)) hmatcher
    refine Or.inr ⟨matcher, rankedHits routes request.plainFilter matcher, rfl, rfl, rank_perm _,
      pairwise_score_rank _, fun settings => ⟨?_, ?_, ?_⟩⟩
    · intro n hn
      obtain ⟨o, hsearch, ho⟩ := limited settings n hn
      refine ⟨o, hsearch, ho, fun hne => ho.results_ne_nil ?_ hne⟩
      exact lt_min hn (List.length_pos_iff.mpr hne)
    · obtain ⟨o, hsearch, ho⟩ := search_showsFirst settings routes request.limit?_none hmatcher
      refine ⟨o, hsearch, ho, fun hratio hne => ho.results_ne_nil ?_ hne, fun hnan => ?_⟩
      · exact shownCount_pos (by simp) (fun _ => hratio) hpos hne
      · rw [ho.results, shownCount_nan hnan, List.take_zero]
    · -- both outcomes are beginnings of the one list, so the shorter one is a beginning of the other
      intro m n o o' hm hmn hsearch hsearch'
      obtain ⟨_, hs, ho⟩ := limited settings m hm
      obtain ⟨_, hs', ho'⟩ := limited settings n (hm.trans hmn)
      obtain rfl := Except.ok.inj (hs.symm.trans hsearch)
      obtain rfl := Except.ok.inj (hs'.symm.trans hsearch')
      rw [ho.results, ho'.results]
      exact List.take_prefix_take_left (min_le_min_right _ hmn)

end RouteAtlas
