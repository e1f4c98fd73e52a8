import RouteAtlas.Proofs.Score.PathTiers
import RouteAtlas.Search.Display

/-!
# Columns

In a table of routes every line shows the path of its route from one column on, and where the route
is declared from another one on (`IsRow`). The columns are wide enough: a method is at most as long
as the column for methods (`length_methodName_le`), and a path at most as long as the one for paths.
For the results of a search that takes an argument, since the column is made for the whole paths, up
to a width, while the paths that are shown are cut to that width (`length_shortened_le_column`).
`lines_are_aligned` states it for searches and listings alike.
-/

namespace RouteAtlas

/-! ## Cut paths -/

theorem length_ellipsis : ellipsis.length = 3 := rfl

theorem shortened_of_le {width : Int} {s : Text} (h : (s.length : Int) ≤ width) :
    shortened width s = s := if_pos h

/-- A text that does not fit loses its end, and the dots take up the last three places. -/
theorem shortened_of_lt {width : Int} {s : Text} (hwidth : 8 ≤ width) (h : width < s.length) :
    shortened width s = s.take (width - 3).toNat ++ ellipsis := by
  obtain ⟨kept, rfl⟩ : ∃ kept : Nat, width = kept + 3 := ⟨(width - 3).toNat, by omega⟩
  have hkept : ((kept : Int) + 3 - ellipsis.length : Int) = Int.ofNat kept := by
    rw [length_ellipsis]
    simp
  rw [shortened, if_neg (not_le.mpr h), hkept, Text.takeSigned]
  simp

/-- A cut text is as wide as it may be, any other one as wide as it is. -/
theorem length_shortened {width : Int} (hwidth : 8 ≤ width) (s : Text) :
    ((shortened width s).length : Int) = min width s.length := by
  rcases le_or_gt (s.length : Int) width with hfits | hlong
  · rw [shortened_of_le hfits, min_eq_right hfits]
  · rw [shortened_of_lt hwidth hlong, min_eq_left hlong.le, List.length_append, List.length_take,
      length_ellipsis]
    omega

/-! ## Columns -/

theorem length_padRight {width : Nat} {s : Text} (h : s.length ≤ width) :
    (Text.padRight width s).length = width := by
  rw [Text.padRight, List.length_append, List.length_replicate]
  omega

/-- A column is as wide as the widest of its texts. -/
theorem le_columnWidth (least : Nat) {widths : List Nat} {n : Nat} (h : n ∈ widths) :
    n ≤ columnWidth least widths := le_foldl_max h least

theorem length_methodName_le {routes : List Record} {r : Record} (hr : r ∈ routes) :
    r.methodName.length ≤ methodColumn routes :=
  le_columnWidth 6 (List.mem_map_of_mem hr)

/-- A path that is cut to a width fits into a column that is made for the whole paths up to that
width. -/
theorem length_shortened_le_column {width : Int} (hwidth : 8 ≤ width) {s : Text} {longest : Nat}
    (hs : s.length ≤ longest) :
    (shortened width s).length ≤ (max 4 (min width longest)).toNat := by
  have hlength := length_shortened hwidth s
  omega

/-! ## Lines -/

/-- The line has the method of a route at its beginning, a path from one column on, and where the
route is declared from another column on, behind two blanks. There are only blanks in between. -/
structure IsRow (pathAt sourceAt : Nat) (path : Text) (r : Record) (line : Text) : Prop where
  parts : ∃ gap more, (∀ c ∈ gap ++ more, c = ' ') ∧
    (r.methodName ++ gap).length = pathAt ∧
    (r.methodName ++ gap ++ path ++ more ++ "  ".toList).length = sourceAt ∧
    line = r.methodName ++ gap ++ path ++ more ++ "  ".toList ++ r.source.text

/-- Where method and path fit into their columns, the width of the columns says where what follows
begins. -/
theorem isRow_routeLine {methodWidth pathWidth : Nat} {gap path : Text} {r : Record}
    (hgap : ∀ c ∈ gap, c = ' ') (hmethod : r.methodName.length ≤ methodWidth)
    (hpath : path.length ≤ pathWidth) :
    IsRow (methodWidth + gap.length) (methodWidth + gap.length + pathWidth + 2) path r
      (routeLine methodWidth pathWidth gap path r) := by
  have hmethodLength := length_padRight hmethod
  have hpathLength := length_padRight hpath
  rw [Text.padRight] at hmethodLength hpathLength
  refine ⟨List.replicate (methodWidth - r.methodName.length) ' ' ++ gap,
    List.replicate (pathWidth - path.length) ' ', ?_, ?_, ?_, ?_⟩
  · intro c hc
    rw [List.append_assoc, List.mem_append, List.mem_append] at hc
    rcases hc with hfill | hc | hfill
    · exact List.eq_of_mem_replicate hfill
    · exact hgap c hc
    · exact List.eq_of_mem_replicate hfill
  · rw [← List.append_assoc, List.length_append, hmethodLength]
  · have hblanks : "  ".toList.length = 2 := rfl
    simp only [List.length_append] at hmethodLength hpathLength ⊢
    omega
  · simp only [routeLine, Text.padRight, List.append_assoc]

/-- Lines whose methods and paths all fit have the same columns. -/
theorem exists_columns {α : Type} {items : List α} {record : α → Record} {path : α → Text}
    {methodWidth pathWidth : Nat} {gap : Text} (hgap : ∀ c ∈ gap, c = ' ')
    (hmethod : ∀ item ∈ items, (record item).methodName.length ≤ methodWidth)
    (hpath : ∀ item ∈ items, (path item).length ≤ pathWidth) :
    ∃ pathAt sourceAt, List.Forall₂
      (fun item line => IsRow pathAt sourceAt (path item) (record item) line) items
      (items.map fun item => routeLine methodWidth pathWidth gap (path item) (record item)) :=
  ⟨_, _, List.forall₂_map_right_iff.mpr (List.forall₂_same.mpr fun item hitem =>
    isRow_routeLine hgap (hmethod item hitem) (hpath item hitem))⟩

/-- **The lines of a table are aligned.** A path that does not fit the width at which paths are
shown is cut to that width, its last three characters being dots; any other one is shown as it is.
In all lines of a search, the paths begin at one column and the places of declaration at another
one, right behind two blanks. The same holds of all lines of a listing, which shows the paths whole.
-/
theorem lines_are_aligned :
    (∀ width : Int, 8 ≤ width →
      (∀ s : Text, ((shortened width s).length : Int) ≤ width ∧
        ((s.length : Int) ≤ width → shortened width s = s) ∧
        (width < s.length → shortened width s = s.take (width - 3).toNat ++ "...".toList)) ∧
      ∀ o : Outcome, ∃ pathAt sourceAt, List.Forall₂
        (fun hit line => IsRow pathAt sourceAt (shortened width hit.route.path) hit.route line)
        o.results (searchLines o width)) ∧
    ∀ routes : List Record, ∃ pathAt sourceAt,
      List.Forall₂ (fun r line => IsRow pathAt sourceAt r.path r line) routes (listLines routes) := by
  refine ⟨fun width hwidth => ⟨fun s => ⟨?_, shortened_of_le, shortened_of_lt hwidth⟩, fun o => ?_⟩,
    fun routes => ?_⟩
  · rw [length_shortened hwidth]
    exact min_le_left _ _
  · have hroute (hit : Hit) (hhit : hit ∈ o.results) : hit.route ∈ o.results.map Hit.route :=
      List.mem_map_of_mem hhit
    have hgap : ∀ c ∈ " ".toList, c = ' ' := by simp
    rw [searchLines, List.map_map]
    refine exists_columns hgap (fun hit hhit => length_methodName_le (hroute hit hhit))
      fun hit hhit => length_shortened_le_column hwidth ?_
    exact le_columnWidth 0 (List.mem_map_of_mem (hroute hit hhit))
  · have hgap : ∀ c ∈ "  ".toList, c = ' ' := by simp
    rw [listLines]
    exact exists_columns hgap (fun r hr => length_methodName_le hr)
      fun r hr => le_columnWidth 4 (List.mem_map_of_mem hr)

/-- At the smallest width there is, with a method that is wider than its column would be without it,
a path that is cut, and a route with neither a method nor a path. -/
theorem lines_are_aligned_at_eight :
    let probe : Record :=
      { id := ['p'], path := "/api/users/\x7bid\x7d".toList, source := ⟨"u.cs".toList, 12, by decide⟩
        controller := "Users".toList, role := .endpoint .options "Probe".toList (by decide)
        id_ne := by decide }
    let home : Record :=
      { id := ['h'], path := [], source := ⟨"h.cs".toList, 3, by decide⟩
        controller := "Home".toList, role := .controller, id_ne := by decide }
    let o : Outcome :=
      { query := [], mode := .fuzzy, kind := .all, method := none, total := 2
        results := [⟨probe, 100, .path, probe.path⟩, ⟨home, 100, .path, home.path⟩] }
    (8 : Int) ≤ 8 ∧
      searchLines o 8 =
        ["OPTIONS /api/...  u.cs:12".toList, "                  h.cs:3".toList] ∧
      ∃ pathAt sourceAt, List.Forall₂
        (fun hit line => IsRow pathAt sourceAt (shortened 8 hit.route.path) hit.route line)
        o.results (searchLines o 8) := by
  intro probe home o
  have hwidth : (8 : Int) ≤ 8 := by decide
  exact ⟨hwidth, by decide, (lines_are_aligned.1 8 hwidth).2 o⟩

end RouteAtlas
