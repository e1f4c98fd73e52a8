import Mathlib.Tactic.ByContra
import RouteAtlas.Proofs.Except
import RouteAtlas.Proofs.Search.Shown

/-!
# Which field a result is due to

Each result of a search for something names a field of its route, the value of that field, and a
score. This file shows that the three belong together, and that the field is the right one to name:
no other field that counts scores more, and none that is preferred to it scores as much
(`Hit.IsDueToLikeness`); in a search by a pattern, none that is preferred to it has the pattern in
it at all (`Hit.IsDueToPattern`).

Both ways of looking go through a list of fields and settle on one of them, so both come down to
where that field splits its list. The fields in front of it are those that are preferred
(`mem_of_idxOf_lt`), since the lists follow the order of preference: `fuzzyPriority` when likeness
is looked for, `literalPriority` when a pattern is.
-/

namespace RouteAtlas

/-- The fields in the order in which they are preferred when they are alike to a query to the same
degree. -/
def fuzzyPriority : List MatchField := [.path, .controller, .action, .method]

/-- The fields in the order in which a pattern is looked for in them. -/
def literalPriority : List MatchField := [.path, .method, .controller, .action]

/-- What it is worth to have a pattern in a field. -/
def MatchField.literalWorth : MatchField → Nat
  | .path => 1000
  | .method => 900
  | .controller => 800
  | .action => 700

/-- A field counts in a search by likeness: path and controller in any, action and method only if
nothing but endpoints is wanted. -/
def MatchField.Counts (kind : KindFilter) (field : MatchField) : Prop :=
  field = .path ∨ field = .controller ∨ kind = .only .endpoint

namespace Hit

/-- The hit is due to the likeness of its field's value to a query. Of the fields that count none
scores more, and of those that are preferred to its field none scores as much. -/
structure IsDueToLikeness (query : Text) (kind : KindFilter) (hit : Hit) : Prop where
  counts : hit.field.Counts kind
  value : hit.route.value? hit.field = some hit.value
  score : hit.score = fuzzyScore query hit.field hit.value
  pos : 0 < hit.score
  highest : ∀ field value, field.Counts kind → hit.route.value? field = some value →
    fuzzyScore query field value ≤ hit.score
  first : ∀ field value, fuzzyPriority.idxOf field < fuzzyPriority.idxOf hit.field →
    hit.route.value? field = some value → fuzzyScore query field value < hit.score

/-- The hit is due to a pattern that is found in its field's value. No field with the pattern in it
is worth more, and the pattern is in none that is preferred to its field. -/
structure IsDueToPattern (pattern : Pattern) (hit : Hit) : Prop where
  value : hit.route.value? hit.field = some hit.value
  found : pattern.foundIn hit.value = true
  score : hit.score = hit.field.literalWorth
  highest : ∀ field value, hit.route.value? field = some value → pattern.foundIn value = true →
    field.literalWorth ≤ hit.score
  first : ∀ field value, literalPriority.idxOf field < literalPriority.idxOf hit.field →
    hit.route.value? field = some value → pattern.foundIn value = false

end Hit

/-- What comes before an element of a list stands in front of any of its places. -/
theorem mem_of_idxOf_lt {α : Type} [DecidableEq α] {all earlier later : List α} {a b : α}
    (hsplit : all = earlier ++ b :: later) (hlt : all.idxOf a < all.idxOf b) : a ∈ earlier := by
  by_contra hmem
  have hb : all.idxOf b ≤ earlier.length := by
    rw [hsplit]
    by_cases hfront : b ∈ earlier
    · rw [List.idxOf_append_of_mem hfront]
      exact List.idxOf_le_length
    · rw [List.idxOf_append_of_notMem hfront, List.idxOf_cons_self]
      exact le_rfl
  have ha : earlier.length ≤ all.idxOf a := by
    rw [hsplit, List.idxOf_append_of_notMem hmem]
    exact Nat.le_add_right _ _
  omega

/-! ## Likeness -/

theorem MatchField.counts_iff {kind : KindFilter} {field : MatchField} :
    field.Counts kind ↔ field ∈ Hit.fuzzyFields kind := by
  match kind with
  | .all | .only .controller | .only .endpoint =>
    cases field <;> simp [Counts, Hit.fuzzyFields]

/-- The fields that a search by likeness looks at are the most preferred ones. -/
theorem Hit.fuzzyFields_prefix (kind : KindFilter) : fuzzyFields kind <+: fuzzyPriority := by
  match kind with
  | .all => exact ⟨[.action, .method], rfl⟩
  | .only .controller => exact ⟨[.action, .method], rfl⟩
  | .only .endpoint => exact ⟨[], rfl⟩

namespace Hit

variable {kind : KindFilter} {query : Text} {r : Record} {hit : Hit} {field : MatchField}

/-- A value without characters is alike to nothing. -/
theorem fuzzyScore_nil (query : Text) (field : MatchField) : fuzzyScore query field [] = 0 := by
  cases field <;> rfl

/-- The score of a field that a route has. -/
theorem score_ofField {value : Text} (h : r.value? field = some value) :
    (ofField query r field).score = fuzzyScore query field value := by
  simp only [ofField, h, Option.getD_some]

/-- A field that scores has a value. -/
theorem value?_of_score_ofField_pos (h : 0 < (ofField query r field).score) :
    r.value? field = some (ofField query r field).value := by
  cases hvalue : r.value? field with
  | some value => simp only [ofField, hvalue, Option.getD_some]
  | none =>
    simp only [ofField, hvalue, Option.getD_none] at h
    rw [fuzzyScore_nil] at h
    exact absurd h (lt_irrefl 0)

/-- The field that a search by likeness settles on, and where it stands among those that are looked
at. -/
theorem exists_field_of_fuzzy? (h : fuzzy? kind query r = some hit) :
    ∃ earlier later, fuzzyFields kind = earlier ++ hit.field :: later ∧
      hit = ofField query r hit.field ∧
      ∀ field ∈ earlier, (ofField query r field).score < hit.score := by
  obtain ⟨rfl, -⟩ := fuzzy?_eq_some_iff.mp h
  obtain ⟨before, after, hsplit, hbefore, -⟩ := isFirstBest_best kind query r
  obtain ⟨earlier, rest, hfields, rfl, hrest⟩ := List.map_eq_append_iff.mp hsplit
  obtain ⟨field, later, rfl, hfield, -⟩ := List.map_eq_cons_iff.mp hrest
  rw [← hfield] at hbefore ⊢
  exact ⟨earlier, later, hfields, rfl, List.forall_mem_map.mp hbefore⟩

/-- **A hit by likeness** is due to the field that it names. -/
theorem isDueToLikeness_of_fuzzy? (h : fuzzy? kind query r = some hit) :
    hit.IsDueToLikeness query kind := by
  obtain ⟨earlier, later, hfields, hhit, hearlier⟩ := exists_field_of_fuzzy? h
  obtain ⟨hbest, hpos⟩ := fuzzy?_eq_some_iff.mp h
  have hroute : hit.route = r := by rw [hhit]; rfl
  have hvalue : hit.route.value? hit.field = some hit.value := by
    rw [hhit] at hpos
    rw [hroute, value?_of_score_ofField_pos hpos, ← hhit]
  refine ⟨?_, hvalue, ?_, hpos, ?_, ?_⟩
  · rw [MatchField.counts_iff, hfields]
    exact List.mem_append_right earlier List.mem_cons_self
  · rw [hroute] at hvalue
    rw [← score_ofField hvalue, ← hhit]
  · intro field value hcounts hfield
    rw [hroute] at hfield
    rw [← score_ofField hfield, hbest]
    exact score_ofField_le_best (MatchField.counts_iff.mp hcounts)
  · intro field value hpreferred hfield
    -- what is preferred to a field that is looked at is looked at, too, and in front of it
    obtain ⟨rest, hpriority⟩ := fuzzyFields_prefix kind
    rw [hfields, List.append_assoc, List.cons_append] at hpriority
    have hmem : field ∈ earlier := mem_of_idxOf_lt hpriority.symm hpreferred
    rw [hroute] at hfield
    rw [← score_ofField hfield]
    exact hearlier field hmem

/-! ## Patterns -/

theorem map_fst_literalScores : literalScores.map Prod.fst = literalPriority := rfl

theorem mem_literalScores_iff {row : MatchField × Nat} :
    row ∈ literalScores ↔ row.2 = row.1.literalWorth := by
  obtain ⟨field, score⟩ := row
  cases field <;> simp [literalScores, MatchField.literalWorth]

/-- What is preferred is worth more. -/
theorem literalWorth_le {field other : MatchField}
    (h : literalPriority.idxOf field ≤ literalPriority.idxOf other) :
    other.literalWorth ≤ field.literalWorth := by
  revert h
  cases field <;> cases other <;> decide

/-- **A hit by a pattern** is due to the field that it names. -/
theorem isDueToPattern_of_literal? {pattern : Pattern} (h : literal? pattern r = some hit) :
    hit.IsDueToPattern pattern := by
  obtain ⟨earlier, ⟨field, score⟩, later, hsplit, hfield, hearlier⟩ :=
    List.findSome?_eq_some_iff.mp h
  have hscore : score = field.literalWorth := by
    refine mem_literalScores_iff.mp (?_ : (field, score) ∈ literalScores)
    rw [hsplit]
    exact List.mem_append_right earlier List.mem_cons_self
  have hpriority : literalPriority = earlier.map Prod.fst ++ field :: later.map Prod.fst := by
    rw [← map_fst_literalScores, hsplit, List.map_append, List.map_cons]
  cases hvalue : r.value? field with
  | none => simp [hvalue] at hfield
  | some value =>
    by_cases hfound : pattern.foundIn value = true
    · simp only [hvalue, if_pos hfound, Option.some.injEq] at hfield
      subst hfield
      -- the search has passed by every field in front of this one
      have hpassed : ∀ other value,
          literalPriority.idxOf other < literalPriority.idxOf field →
          r.value? other = some value → pattern.foundIn value = false := by
        intro other value hpreferred hother
        obtain ⟨row, hrow, rfl⟩ := List.mem_map.mp (mem_of_idxOf_lt hpriority hpreferred)
        simpa [hother] using hearlier row hrow
      refine ⟨hvalue, hfound, hscore, ?_, hpassed⟩
      intro other value hother hin
      show other.literalWorth ≤ score
      rw [hscore]
      refine literalWorth_le (not_lt.mp fun hpreferred => ?_)
      rw [hpassed other value hpreferred hother] at hin
      exact absurd hin (by simp)
    · simp [hvalue, hfound] at hfield

end Hit

/-! ## Searches -/

variable {settings : Settings} {routes : List Record} {request : Request} {o : Outcome}

/-- **Results name the field they are due to.** Each result of a search for a query that is not
blank is a route from the list with the value and the score of one of its fields. By likeness no
field that counts scores more, and none that is preferred to it scores as much; action and method
count only if nothing but endpoints is wanted, or a method is given. By a pattern it is the first
field with the pattern in it, which is the one that is worth the most. -/
theorem results_are_due_to_their_fields (hquery : Text.trim request.query ≠ [])
    (hsearch : search settings routes request = .ok o) :
    ∀ hit ∈ o.results, hit.route ∈ routes ∧
      (request.mode = .fuzzy → hit.IsDueToLikeness request.query request.plainFilter.kind) ∧
      (request.mode = .literal →
        ∃ pattern, Pattern.read request.query = .ok pattern ∧ hit.IsDueToPattern pattern) := by
  intro hit hhit
  obtain ⟨count, matcher, hmatcher, ho⟩ := showsFirst_of_search hsearch
  rw [ho.results] at hhit
  obtain ⟨hselected, hfind⟩ := find?_of_mem_rankedHits (List.mem_of_mem_take hhit)
  refine ⟨(List.mem_filter.mp hselected).1, ?_, ?_⟩
  · intro hmode
    rw [Request.matcher_fuzzy hmode hquery] at hmatcher
    obtain rfl := Except.ok.inj hmatcher
    exact Hit.isDueToLikeness_of_fuzzy? hfind
  · intro hmode
    obtain ⟨pattern, hread, rfl⟩ := Request.matcher_literal hmode hquery hmatcher
    exact ⟨pattern, hread, Hit.isDueToPattern_of_literal? hfind⟩

/-- An endpoint whose action and method are the same word: by likeness they tie and the action is
named, by a pattern the method is. -/
theorem results_are_due_to_their_fields_tied :
    let fetched : Record :=
      { id := ['f'], path := "/x".toList, source := ⟨['f'], 1, by decide⟩, controller := ['C'],
        role := .endpoint .get "Get".toList (by decide), id_ne := by decide }
    let given : Filter := { method := "get".toList }
    Text.trim "get".toList ≠ [] ∧
      (∃ o, search .standard [fetched] { query := "get".toList, filter := given } = .ok o ∧
        o.results = [⟨fetched, 1000, .action, "Get".toList⟩] ∧
        ∀ hit ∈ o.results, hit.IsDueToLikeness "get".toList (.only .endpoint)) ∧
      ∃ o, search .standard [fetched]
            { query := "get".toList, filter := given, mode := .literal } = .ok o ∧
        o.results = [⟨fetched, 900, .method, "GET".toList⟩] ∧
        ∀ hit ∈ o.results, ∃ pattern, hit.IsDueToPattern pattern := by
  intro fetched given
  have hquery : Text.trim "get".toList ≠ [] := by decide
  refine ⟨hquery, ?_, ?_⟩
  · obtain ⟨o, hsearch, hresults⟩ := Except.exists_eq_ok_of_any
      (x := search .standard [fetched] { query := "get".toList, filter := given })
      (p := fun o => o.results == [⟨fetched, 1000, .action, "Get".toList⟩]) (by decide +kernel)
    refine ⟨o, hsearch, beq_iff_eq.mp hresults, fun hit hhit => ?_⟩
    exact (results_are_due_to_their_fields hquery hsearch hit hhit).2.1 rfl
  · obtain ⟨o, hsearch, hresults⟩ := Except.exists_eq_ok_of_any
      (x := search .standard [fetched]
        { query := "get".toList, filter := given, mode := .literal })
      (p := fun o => o.results == [⟨fetched, 900, .method, "GET".toList⟩]) (by decide +kernel)
    refine ⟨o, hsearch, beq_iff_eq.mp hresults, fun hit hhit => ?_⟩
    obtain ⟨pattern, -, hdue⟩ := (results_are_due_to_their_fields hquery hsearch hit hhit).2.2 rfl
    exact ⟨pattern, hdue⟩

end RouteAtlas
