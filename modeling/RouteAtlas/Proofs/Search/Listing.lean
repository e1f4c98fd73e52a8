import RouteAtlas.Proofs.Search.Methods
import RouteAtlas.Proofs.Search.Reordered

/-!
# What a listing shows

A listing lets each route pass or not, by its kind, its method and its path
(`Listing.passes_iff`), and sorts those that pass. `listing_is_arranged` says what comes of the two
together: every place of the list of routes is shown once if its route passes, and not at all
otherwise, by path, then by method with controllers in front, then by place. As with ranked hits,
the proof sorts the routes together with their places.

To list a listing again changes nothing: all its routes pass, and they are in order already
(`listRoutes_listRoutes`).
-/

namespace RouteAtlas

/-- A route passes a listing: it is of the kind that is asked for and has the method, and its path
has the part in it, ignoring case. All kinds, a blank method and an empty part ask for nothing. -/
def Listing.Passes (listing : Listing) (r : Record) : Prop :=
  (listing.filter.kind = .all ∨ listing.filter.kind = .only r.kind) ∧
    (Text.trim listing.filter.method = [] ∨ r.HasMethod listing.filter.method) ∧
    (listing.path = [] ∨ Text.lower listing.path <:+: Text.lower r.path)

/-- One method, if there is one, comes before another: none before any, and two by their names. -/
def Method.Precedes : Option Method → Option Method → Prop
  | _, none => False
  | none, some _ => True
  | some a, some b => a.name < b.name

/-- A route at a place comes before another one in a listing: by path, then by method, then by
place. -/
def ListedBefore (a b : Record × Nat) : Prop :=
  a.1.path < b.1.path ∨
    a.1.path = b.1.path ∧
      (Method.Precedes a.1.method? b.1.method? ∨ a.1.method? = b.1.method? ∧ a.2 < b.2)

/-! ## Which routes pass -/

/-- The test that a listing makes on each route. -/
def Listing.passes (listing : Listing) (r : Record) : Bool :=
  (listing.path.isEmpty || Text.hasPart (Text.lower listing.path) (Text.lower r.path)) &&
    listing.filter.admits r

theorem KindFilter.admits_iff {filter : KindFilter} {kind : Kind} :
    filter.admits kind = true ↔ filter = .all ∨ filter = .only kind := by
  cases filter with
  | all => simp [admits]
  | only wanted => simp [admits]

/-- A filter admits the routes of its kind that have its method, unless that is blank. -/
theorem Filter.admits_iff_kind_and_method {filter : Filter} {r : Record} :
    filter.admits r = true ↔
      filter.kind.admits r.kind = true ∧
        (Text.trim filter.method = [] ∨ r.HasMethod filter.method) := by
  by_cases hmethod : Text.trim filter.method = []
  · have hany : filter.wantedMethod.isEmpty = true := isEmpty_wantedMethod.mpr hmethod
    rw [admits, hany, Bool.true_or, Bool.and_true]
    simp only [hmethod, true_or, and_true]
  · rw [admits_iff hmethod]
    simp only [hmethod, false_or]

/-- A route passes if its kind, its method and its path do. -/
theorem Listing.passes_iff {listing : Listing} {r : Record} :
    listing.passes r = true ↔ listing.Passes r := by
  rw [passes, Passes, Bool.and_eq_true, Bool.or_eq_true, List.isEmpty_iff, Text.hasPart_iff,
    Filter.admits_iff_kind_and_method, KindFilter.admits_iff, and_comm, and_assoc]

/-- A listing is the sorted list of the routes that pass. -/
theorem listRoutes_eq (routes : List Record) (listing : Listing) :
    listRoutes routes listing = (routes.filter listing.passes).mergeSort Record.listsBefore := by
  rw [listRoutes, Filter.select, List.filter_filter]
  rfl

/-! ## In which order -/

/-- Methods are compared by name, and no method comes first. -/
theorem Method.precedes_iff {a b : Option Method} :
    Precedes a b ↔ (a.map name).getD [] < (b.map name).getD [] := by
  cases a with
  | none =>
    cases b with
    | none => simp [Precedes]
    | some b =>
      have hname : ([] : Text) < b.name := by cases b <;> decide
      simpa [Precedes] using hname
  | some a =>
    cases b with
    | none => simp [Precedes]
    | some b => rfl

/-- Keys are compared by path first, and then by method. -/
theorem Record.listKey_lt_iff {a b : Record} :
    a.listKey < b.listKey ↔
      a.path < b.path ∨ a.path = b.path ∧ Method.Precedes a.method? b.method? := by
  rw [listKey, listKey, Prod.Lex.toLex_lt_toLex, Method.precedes_iff]
  rfl

/-- Two routes are level if both are the same. -/
theorem Record.listKey_eq_iff {a b : Record} :
    a.listKey = b.listKey ↔ a.path = b.path ∧ a.method? = b.method? := by
  rw [listKey, listKey, toLex_inj, Prod.mk.injEq, method?_eq_find? a, method?_eq_find? b]
  constructor
  · rintro ⟨hpath, hname⟩
    exact ⟨hpath, by rw [hname]⟩
  · rintro ⟨hpath, hmethod⟩
    rw [← method?_eq_find?, ← method?_eq_find?] at hmethod
    exact ⟨hpath, by rw [methodName, methodName, hmethod]⟩

/-- The routes that pass with their places, in the order of a listing. -/
def listedRows (routes : List Record) (listing : Listing) : List (Record × Nat) :=
  (routes.zipIdx.filter fun row => listing.passes row.1).mergeSort fun a b => a.1.listsBefore b.1

variable {routes : List Record} {listing : Listing}

/-- Without their places the rows are the listing. -/
theorem map_fst_listedRows :
    (listedRows routes listing).map Prod.fst = listRoutes routes listing := by
  have hrows : (routes.zipIdx.filter fun row => listing.passes row.1).map Prod.fst =
      routes.filter listing.passes := by
    conv_rhs => rw [← List.zipIdx_map_fst 0 routes, List.filter_map]
    rfl
  rw [listedRows, listRoutes_eq, ← hrows]
  exact List.map_mergeSort fun _ _ _ _ => rfl

/-- A row is a place of the list whose route passes. -/
theorem mem_listedRows {row : Record × Nat} :
    row ∈ listedRows routes listing ↔ row ∈ routes.zipIdx ∧ listing.Passes row.1 := by
  rw [listedRows, List.mem_mergeSort, List.mem_filter, Listing.passes_iff]

/-- Rows stand in order, by place where they are level, since sorting is stable. -/
theorem pairwise_listedRows : (listedRows routes listing).Pairwise ListedBefore := by
  have hplaces := (pairwise_place_zipIdx routes).filter fun row => listing.passes row.1
  have hsorts : SortsBy (fun a b : Record × Nat => a.1.listsBefore b.1) (fun a => a.1.listKey) :=
    fun a b => listsBefore_sortsBy a.1 b.1
  refine (hsorts.pairwise_mergeSort hplaces).imp ?_
  rintro a b (hlt | ⟨heq, hplace⟩)
  · rcases Record.listKey_lt_iff.mp hlt with hpath | ⟨hpath, hmethod⟩
    · exact Or.inl hpath
    · exact Or.inr ⟨hpath, Or.inl hmethod⟩
  · obtain ⟨hpath, hmethod⟩ := Record.listKey_eq_iff.mp heq
    exact Or.inr ⟨hpath, Or.inr ⟨hmethod, hplace⟩⟩

/-- No place is listed twice. -/
theorem nodup_listedRows : (listedRows routes listing).Nodup := by
  have hrows : routes.zipIdx.Nodup := by
    refine (pairwise_place_zipIdx routes).imp ?_
    rintro a _ hlt rfl
    exact lt_irrefl a.2 hlt
  rw [listedRows, (List.mergeSort_perm _ _).nodup_iff]
  exact hrows.filter _

/-- To list a listing again changes nothing. -/
theorem listRoutes_listRoutes (routes : List Record) (listing : Listing) :
    listRoutes (listRoutes routes listing) listing = listRoutes routes listing := by
  have hpass : ∀ r ∈ listRoutes routes listing, listing.passes r = true := by
    intro r hr
    rw [listRoutes_eq, List.mem_mergeSort] at hr
    exact (List.mem_filter.mp hr).2
  have hsorted : (listRoutes routes listing).Pairwise fun a b => a.listsBefore b = true := by
    rw [listRoutes_eq]
    exact List.pairwise_mergeSort listsBefore_sortsBy.trans listsBefore_sortsBy.total _
  rw [listRoutes_eq (listRoutes routes listing), List.filter_eq_self.mpr hpass,
    List.mergeSort_of_pairwise hsorted]

/-- **What a listing shows.** The routes of some arrangement of places in the list of routes: every
place whose route passes stands in it once, and no other place; they are in the order of their
paths, then of their methods, none in front, then of the places. To list the same again changes
nothing. -/
theorem listing_is_arranged (routes : List Record) (listing : Listing) :
    (∃ order : List (Record × Nat),
      listRoutes routes listing = order.map Prod.fst ∧
      order.Nodup ∧
      (∀ row, row ∈ order ↔ row ∈ routes.zipIdx ∧ listing.Passes row.1) ∧
      order.Pairwise ListedBefore) ∧
    listRoutes (listRoutes routes listing) listing = listRoutes routes listing := by
  refine ⟨⟨listedRows routes listing, ?_, ?_, ?_, ?_⟩, listRoutes_listRoutes routes listing⟩
  · exact map_fst_listedRows.symm
  · exact nodup_listedRows
  · exact fun _ => mem_listedRows
  · exact pairwise_listedRows

end RouteAtlas
