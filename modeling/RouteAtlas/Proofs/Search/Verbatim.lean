import RouteAtlas.Proofs.Pattern.Verbatim
import RouteAtlas.Proofs.Search.Attribution
import RouteAtlas.Proofs.Search.Kinds
import RouteAtlas.Proofs.Search.Listing

/-!
# Literal search and listing

A search by a pattern and a listing both look for a part of a path without regard to case. For plain
patterns, whose characters mean nothing but themselves, they find the same routes
(`literal_search_agrees_with_listing`): the pattern is read as itself (`Pattern.read_of_verbatim`)
and is found where the listing finds the part (`Pattern.foundIn_verbatim_iff`). Paths are looked at
before all other fields, so a route whose path matches is never reported for another one
(`Hit.literal?_of_foundIn`).

Paths are of ASCII here. Beyond it the two differ: in lower case a letter can turn into several,
and a pattern takes some letters for the same that have different small ones.
-/

namespace RouteAtlas

/-- A letter or a digit of ASCII, a slash, an underscore or a space. -/
def Text.isPlainChar (c : Char) : Bool :=
  isAsciiLetter c || isAsciiDigit c || ['/', '_', ' '].contains c

/-- All characters of the text are plain. -/
def Text.IsPlain (s : Text) : Prop := ∀ c ∈ s, isPlainChar c = true

instance (s : Text) : Decidable s.IsPlain := List.decidableBAll _ s

/-- The routes that are hits of their paths. -/
def pathRoutes (hits : List Hit) : List Record :=
  (hits.filter fun hit => hit.field = .path).map Hit.route

variable {routes : List Record} {listing : Listing} {pattern : Pattern} {r : Record} {hit : Hit}
  {query : Text} {kind : KindFilter}

/-! ## Plain texts -/

theorem Text.IsPlain.isAscii (h : query.IsPlain) : query.IsAscii := by
  intro c hc
  have hplain := h c hc
  simp only [isPlainChar, isAsciiLetter, isAsciiDigit, Bool.or_eq_true, Bool.and_eq_true,
    decide_eq_true_eq, Char.le_def, UInt32.le_iff_toNat_le, List.contains_iff_mem] at hplain
  rcases hplain with ((⟨-, hsmall⟩ | ⟨-, hcapital⟩) | ⟨-, hdigit⟩) | hother
  · exact hsmall.trans_lt (by decide)
  · exact hcapital.trans_lt (by decide)
  · exact hdigit.trans_lt (by decide)
  · have hothers : Text.IsAscii ['/', '_', ' '] := by decide
    exact hothers c hother

/-- No plain character is a sign of patterns. -/
theorem Text.IsPlain.notMem_signs (h : query.IsPlain) : ∀ c ∈ query, c ∉ Pattern.signs := by
  intro c hc hsign
  have hnone : Pattern.signs.any isPlainChar = false := by decide
  have hsome : Pattern.signs.any isPlainChar = true := List.any_eq_true.mpr ⟨c, hsign, h c hc⟩
  exact Bool.false_ne_true (hnone.symm.trans hsome)

/-- A plain text is looked for as itself. -/
theorem Request.matcher_of_isPlain (hplain : query.IsPlain) (hquery : Text.trim query ≠ []) :
    Request.matcher { query, mode := .literal } =
      .ok (.literal ⟨[.ignoreCase], Pattern.verbatim query⟩) := by
  obtain ⟨hsame, hempty⟩ := @plainQuery_eq { query, mode := .literal } hquery
  rw [matcher, hempty, hsame]
  simp only [Pattern.read_of_verbatim hplain.notMem_signs]
  rfl

/-! ## Hits of paths -/

/-- A route whose path has the pattern in it is a hit of its path. -/
theorem Hit.literal?_of_foundIn (h : pattern.foundIn r.path = true) :
    literal? pattern r = some ⟨r, 1000, .path, r.path⟩ := by
  rw [literal?, literalScores, List.findSome?_cons]
  simp only [Record.value?, h, if_true]

/-- A route whose path does not have the pattern in it is no hit of its path. -/
theorem Hit.field_ne_path_of_literal? (h : pattern.foundIn r.path = false)
    (hhit : literal? pattern r = some hit) : hit.field ≠ .path := by
  intro hpath
  have hdue := isDueToPattern_of_literal? hhit
  have hvalue : some r.path = some hit.value := by
    rw [← hdue.value, hpath, (literal?_eq_some hhit).1]
    rfl
  rw [Option.some.inj hvalue] at h
  exact Bool.false_ne_true (h.symm.trans hdue.found)

/-- The hits of their paths are the routes whose paths have the pattern in them. -/
theorem pathRoutes_filterMap_literal? (pattern : Pattern) (routes : List Record) :
    pathRoutes (routes.filterMap (Hit.literal? pattern)) =
      routes.filter fun r => pattern.foundIn r.path := by
  induction routes with
  | nil => rfl
  | cons r routes ih =>
    rw [List.filter_cons, ← ih]
    cases hfound : pattern.foundIn r.path with
    | true =>
      rw [List.filterMap_cons_some (Hit.literal?_of_foundIn hfound)]
      rfl
    | false =>
      cases hhit : Hit.literal? pattern r with
      | none =>
        rw [List.filterMap_cons_none hhit]
        rfl
      | some hit =>
        have hother : ¬decide (hit.field = .path) = true := by
          rw [decide_eq_true_eq]
          exact Hit.field_ne_path_of_literal? hfound hhit
        rw [List.filterMap_cons_some hhit, pathRoutes, List.filter_cons, if_neg hother]
        rfl

/-- The ranking moves the hits of paths among each other. -/
theorem pathRoutes_rank_perm (hits : List Hit) :
    (pathRoutes (rank hits)).Perm (pathRoutes hits) :=
  ((rank_perm hits).filter _).map _

/-! ## Agreement -/

/-- A plain part that is looked for passes the paths in which it is found as a pattern. -/
theorem Listing.passes_eq_foundIn (hplain : query.IsPlain) (hquery : query ≠ [])
    (hpath : Text.IsAscii r.path) :
    Listing.passes { filter := { kind }, path := query } r =
      (Pattern.foundIn ⟨[.ignoreCase], Pattern.verbatim query⟩ r.path &&
        Filter.admits { kind } r) := by
  have hsame : Pattern.foundIn ⟨[.ignoreCase], Pattern.verbatim query⟩ r.path =
      Text.hasPart (Text.lower query) (Text.lower r.path) := by
    rw [Bool.eq_iff_iff, Pattern.foundIn_verbatim_iff hplain.isAscii hpath, Text.hasPart_iff]
  have hsome : query.isEmpty = false := by
    rwa [Bool.eq_false_iff, ne_eq, List.isEmpty_iff]
  rw [passes, hsame]
  simp only [hsome, Bool.false_or]

/-- The hits of paths among the routes of a kind are the routes of the listing. -/
theorem pathRoutes_rankedHits_perm (hpaths : ∀ r ∈ routes, Text.IsAscii r.path)
    (hplain : query.IsPlain) (hquery : query ≠ []) :
    (pathRoutes (rankedHits routes { kind }
        (.literal ⟨[.ignoreCase], Pattern.verbatim query⟩))).Perm
      (listRoutes routes { filter := { kind }, path := query }) := by
  have hsame : pathRoutes ((Filter.select { kind } routes).filterMap
        (Hit.literal? ⟨[.ignoreCase], Pattern.verbatim query⟩)) =
      routes.filter (Listing.passes { filter := { kind }, path := query }) := by
    rw [pathRoutes_filterMap_literal?, Filter.select, List.filter_filter]
    refine List.filter_congr fun r hr => ?_
    exact (Listing.passes_eq_foundIn hplain hquery (hpaths r hr)).symm
  rw [listRoutes_eq, ← hsame]
  exact (pathRoutes_rank_perm _).trans (List.mergeSort_perm _ _).symm

/-- **Literal search agrees with listing.** Paths being of ASCII, a search by a plain pattern that
is not blank shows as hits of their paths the routes of a listing of the paths with that part, each
as often, whatever kind both are asked for, if it shows all its hits. It does if it has room for as
many hits as there are routes. -/
theorem literal_search_agrees_with_listing (settings : Settings) (routes : List Record)
    (query : Text) (kind : KindFilter) (room : Nat)
    (hpaths : ∀ r ∈ routes, Text.IsAscii r.path) (hplain : query.IsPlain)
    (hquery : Text.trim query ≠ []) (hroom : 1 ≤ room) :
    ∃ o, searchAmong settings routes query .literal room kind = .ok o ∧
      (routes.length ≤ room → o.hasMore = false) ∧
      (o.hasMore = false →
        (pathRoutes o.results).Perm
          (listRoutes routes { filter := { kind }, path := query })) := by
  have hmatcher := Request.matcher_of_isPlain hplain hquery
  have hne : query ≠ [] := by
    rintro rfl
    exact hquery rfl
  obtain ⟨o, hsearch, hshows⟩ := search_showsFirst settings routes
    (Request.limit?_some { query, filter := { kind }, mode := .literal } (n := room) (by omega))
    hmatcher
  refine ⟨o, hsearch, ?_, ?_⟩
  · intro hlarge
    obtain ⟨_, hsearch', -, htotal⟩ := searchAmong_eq_ok settings hmatcher hroom hlarge kind
    obtain rfl := Except.ok.inj (hsearch'.symm.trans hsearch)
    rw [Outcome.hasMore, Outcome.shown, htotal, decide_eq_false_iff_not]
    exact lt_irrefl _
  · intro hall
    have hresults : o.results = rankedHits routes { kind }
        (.literal ⟨[.ignoreCase], Pattern.verbatim query⟩) := by
      by_contra hsome
      exact Bool.false_ne_true (hall.symm.trans (hshows.hasMore.mpr hsome))
    rw [hresults]
    exact pathRoutes_rankedHits_perm hpaths hplain hne

/-- A pattern in capitals with a space: one of the two paths has it in small letters, and the other
one is found for its controller only. -/
theorem literal_search_agrees_with_listing_on_capitals :
    let pages : Record :=
      { id := ['p'], path := "/site/the page".toList, source := ⟨['f'], 1, by decide⟩,
        controller := "Pages".toList, role := .controller, id_ne := by decide }
    let home : Record :=
      { pages with id := ['h'], path := "/".toList, controller := "The Page".toList,
                   id_ne := by decide }
    (∀ r ∈ [home, pages], Text.IsAscii r.path) ∧ Text.IsPlain "E PAGE".toList ∧
      Text.trim "E PAGE".toList ≠ [] ∧ 1 ≤ 2 ∧
      ∃ o, searchAmong .standard [home, pages] "E PAGE".toList .literal 2 .all = .ok o ∧
        o.hasMore = false ∧
        (pathRoutes o.results).Perm
          (listRoutes [home, pages] { filter := { kind := .all }, path := "E PAGE".toList }) := by
  intro pages home
  have hpaths : ∀ r ∈ [home, pages], Text.IsAscii r.path := by decide
  have hplain : Text.IsPlain "E PAGE".toList := by decide
  have hquery : Text.trim "E PAGE".toList ≠ [] := by decide
  have hroom : 1 ≤ 2 := by decide
  obtain ⟨o, hsearch, hall, hsame⟩ := literal_search_agrees_with_listing .standard [home, pages]
    "E PAGE".toList .all 2 hpaths hplain hquery hroom
  have hwhole : o.hasMore = false := hall (by decide)
  exact ⟨hpaths, hplain, hquery, hroom, o, hsearch, hwhole, hsame hwhole⟩

end RouteAtlas
