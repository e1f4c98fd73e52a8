import RouteAtlas.Proofs.Score.Path
import RouteAtlas.Proofs.Score.Word
import RouteAtlas.Proofs.Search.Complete

/-!
# What a search by likeness never misses

A route counts as a match as soon as one of the fields that are looked at has the characters of the
query in order, with anything between them (`Record.Spells`). It need not be alike to the query in
any other way: the scattered tier is the last one of every score, and no tier in front of it turns a
field down that it would have let through (`Hit.fuzzyScore_pos`).

What is counted is the number of `scoringRoutes`, one for each occurrence of a route in the list
(`search_misses_none`).
-/

namespace RouteAtlas

/-- A field has the characters of a query in order, ignoring case. -/
def Record.SpellsIn (query : Text) (r : Record) (field : MatchField) : Prop :=
  ∃ value, r.value? field = some value ∧ (Text.lower query).Sublist (Text.lower value)

/-- The path or the controller has the characters of a query in order, ignoring case, or, if nothing
but endpoints is wanted, the action or the method has. -/
def Record.Spells (query : Text) (kind : KindFilter) (r : Record) : Prop :=
  r.SpellsIn query .path ∨ r.SpellsIn query .controller ∨
    kind = .only .endpoint ∧ (r.SpellsIn query .action ∨ r.SpellsIn query .method)

variable {query value : Text} {r : Record} {kind : KindFilter}

/-- Every field that has the characters of the query scores. -/
theorem Hit.fuzzyScore_pos (field : MatchField) (hquery : query ≠ [])
    (h : (Text.lower query).Sublist (Text.lower value)) : 0 < fuzzyScore query field value := by
  cases field with
  | path => exact pathScore_pos hquery h
  | controller => exact controllerScore_pos hquery h
  | action => exact wordScore_pos hquery h
  | method => exact wordScore_pos hquery h

/-- The field in which a route spells the query is one of those that are looked at. -/
theorem Record.Spells.exists_field (h : r.Spells query kind) :
    ∃ field ∈ Hit.fuzzyFields kind, r.SpellsIn query field := by
  have hcontroller : .controller ∈ Hit.fuzzyFields kind := by
    match kind with
    | .all | .only .controller | .only .endpoint => decide
  rcases h with hpath | hname | ⟨rfl, haction | hmethod⟩
  · exact ⟨.path, Hit.path_mem_fuzzyFields kind, hpath⟩
  · exact ⟨.controller, hcontroller, hname⟩
  · exact ⟨.action, by decide, haction⟩
  · exact ⟨.method, by decide, hmethod⟩

/-- A route that spells the query scores. -/
theorem Record.Spells.scoreOf_pos (h : r.Spells query kind) (hquery : query ≠ []) :
    0 < Hit.scoreOf (.fuzzy query) kind r := by
  obtain ⟨field, hfield, value, hvalue, hspelled⟩ := h.exists_field
  have hscore : 0 < (Hit.ofField query r field).score := by
    simp only [Hit.ofField, hvalue, Option.getD_some]
    exact Hit.fuzzyScore_pos field hquery hspelled
  obtain ⟨hit, hfind⟩ := Hit.exists_fuzzy?_eq_some hfield hscore
  rw [← Hit.find?_fuzzy] at hfind
  rw [Hit.scoreOf, hfind]
  exact Hit.score_pos_of_find? hfind

/-- **No route that spells the query is missed.** A search by likeness for a query that is not
blank, if it is not refused for its limit, counts as matches the routes that are admitted and score,
each occurrence in the list once; and every admitted route that has the characters of the query in
order is one of them. -/
theorem search_misses_none (settings : Settings) (routes : List Record) (query : Text)
    (filter : Filter) (limit : Option Int) (hquery : Text.trim query ≠ []) :
    (∃ n, limit = some n ∧ n < 1 ∧
        search settings routes { query, filter, limit } = .error (.limitTooSmall n)) ∨
      ∃ o, search settings routes { query, filter, limit } = .ok o ∧
        o.total =
          (scoringRoutes routes (Request.plainFilter { filter }) (.fuzzy query)).length ∧
        ∀ row ∈ routes.zipIdx, (Request.plainFilter { filter }).admits row.1 = true →
          row.1.Spells query (Request.plainFilter { filter }).kind →
          row ∈ scoringRoutes routes (Request.plainFilter { filter }) (.fuzzy query) := by
  have hne : query ≠ [] := by
    rintro rfl
    exact hquery rfl
  rcases search_fuzzy_cases settings routes query filter limit hquery with
    hrefused | ⟨o, count, hsearch, ho⟩
  · exact Or.inl hrefused
  refine Or.inr ⟨o, hsearch, ho.total.trans length_rankedHits, ?_⟩
  rintro ⟨r, place⟩ hrow hadmits hspells
  have hscore := decide_eq_true (hspells.scoreOf_pos hne)
  exact List.mem_filter.mpr ⟨hrow, Bool.and_eq_true_iff.mpr ⟨hadmits, hscore⟩⟩

/-- With a method, an action counts as well: two occurrences of an endpoint that is alike to the
query in nothing but the characters of its action. -/
theorem search_misses_none_scattered :
    let listing : Record :=
      { id := ['l'], path := "/x".toList, source := ⟨['f'], 1, by decide⟩, controller := ['C'],
        role := .endpoint .get "ListAllOfThem".toList (by decide), id_ne := by decide }
    let given : Filter := { method := "get".toList }
    Text.trim "LAT".toList ≠ [] ∧
      ∃ o, search .standard [listing, listing] { query := "LAT".toList, filter := given } = .ok o ∧
        2 ≤ o.total := by
  intro listing given
  have hquery : Text.trim "LAT".toList ≠ [] := by decide
  refine ⟨hquery, ?_⟩
  rcases search_misses_none .standard [listing, listing] "LAT".toList given none hquery with
    ⟨n, hn, -⟩ | ⟨o, hsearch, htotal, hmem⟩
  · exact absurd hn (by simp)
  refine ⟨o, hsearch, ?_⟩
  have hspells : listing.Spells "LAT".toList (.only .endpoint) :=
    Or.inr (Or.inr ⟨rfl, Or.inl ⟨_, rfl, List.isSublist_iff_sublist.mp (by decide)⟩⟩)
  have hadmits : (Request.plainFilter { filter := given }).admits listing = true := by decide
  have hrows : [(listing, 0), (listing, 1)] ⊆
      scoringRoutes [listing, listing] (Request.plainFilter { filter := given })
        (.fuzzy "LAT".toList) := by
    intro row hrow
    have hroute : row.1 = listing := by
      rcases List.mem_pair.mp hrow with rfl | rfl <;> rfl
    exact hmem row hrow (hroute ▸ hadmits) (hroute ▸ hspells)
  rw [htotal]
  exact (List.Nodup.subperm (by decide) hrows).length_le

end RouteAtlas
