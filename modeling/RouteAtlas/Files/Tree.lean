import RouteAtlas.Text.Utf8

/-!
# File trees

A file tree says what stands at each place: a file with its contents and permissions, a directory,
or a link to another path. A place is the list of names that leads to it from the root, and the root
itself is always a directory. Nothing stands at two places of the list, so that changing one place
leaves every other one as it was (`get?_put`, `get?_erase`).

A process works on the tree, and with it comes the mask of permissions that the process denies to
whatever it makes. Nothing that is done to the tree changes the mask.
-/

namespace RouteAtlas

/-- The names that lead from the root to an entry, none of them a dot or the name of a link. -/
abbrev Place := List Text

/-- What stands at a place. -/
inductive Entry where
  | file (contents : Bytes) (mode : Nat)
  | directory
  /-- A link; its target is read from the directory that holds the link. -/
  | link (target : Text)
  deriving DecidableEq, Repr

namespace Entry

/-- The entry is a directory itself. -/
def isDirectory : Entry → Bool
  | .directory => true
  | _ => false

/-- The entry is a link. -/
def isLink : Entry → Bool
  | .link _ => true
  | _ => false

end Entry

/-- The entries of a tree with their places, but for the root. -/
structure FileTree where
  entries : List (Place × Entry) := []
  distinct : (entries.map Prod.fst).Nodup := by simp
  /-- The permissions that new files and directories are denied. -/
  umask : BitVec 9 := 0o022

namespace FileTree

/-- What stands at a place. -/
def get? (t : FileTree) (place : Place) : Option Entry :=
  if place = [] then some .directory else t.entries.lookup place

/-- The tree without what stands at a place. What stands below it stays. -/
def erase (t : FileTree) (place : Place) : FileTree where
  entries := t.entries.filter (·.1 != place)
  distinct := (List.filter_sublist.map _).nodup t.distinct
  umask := t.umask

/-- The tree without a place and all that stands below it. -/
def prune (t : FileTree) (place : Place) : FileTree where
  entries := t.entries.filter (!place.isPrefixOf ·.1)
  distinct := (List.filter_sublist.map _).nodup t.distinct
  umask := t.umask

/-- The tree with an entry at a place, instead of what stood there. -/
def put (t : FileTree) (place : Place) (entry : Entry) : FileTree where
  entries := (place, entry) :: (t.erase place).entries
  distinct := by
    rw [List.map_cons, List.nodup_cons]
    refine ⟨?_, (t.erase place).distinct⟩
    simp [erase]
  umask := t.umask

/-- The entries below a place, with the names that lead to them from there. -/
def below (t : FileTree) (place : Place) : List (Place × Entry) :=
  t.entries.filterMap fun (at_, entry) =>
    match place.isPrefixOf? at_ with
    | some (name :: rest) => some (name :: rest, entry)
    | _ => none

/-- How many links there are. -/
def linkCount (t : FileTree) : Nat := t.entries.countP (·.2.isLink)

/-- The greatest number of names that lead to an entry. -/
def depth (t : FileTree) : Nat := (t.entries.map (·.1.length)).foldr max 0

theorem length_le_depth {t : FileTree} {row : Place × Entry} (h : row ∈ t.entries) :
    row.1.length ≤ t.depth := by
  unfold depth
  generalize t.entries = entries at h
  induction entries with
  | nil => cases h
  | cons first rest ih =>
    rw [List.map_cons, List.foldr_cons]
    rcases List.mem_cons.mp h with rfl | hrest
    · exact Nat.le_max_left _ _
    · exact Nat.le_trans (ih hrest) (Nat.le_max_right _ _)

/-- The names of the entries in a directory, in order. -/
def listing (t : FileTree) (place : Place) : List Text :=
  (t.entries.filterMap fun row =>
    if row.1.dropLast = place then row.1.getLast? else none).mergeSort Text.le

theorem mem_listing_iff_exists_mem {t : FileTree} {place : Place} {name : Text} :
    name ∈ t.listing place ↔ ∃ entry, (place ++ [name], entry) ∈ t.entries := by
  unfold listing
  rw [(List.mergeSort_perm _ _).mem_iff, List.mem_filterMap]
  constructor
  · rintro ⟨⟨at_, entry⟩, hmem, hname⟩
    dsimp only at hname
    split at hname
    next hplace =>
      obtain ⟨front, rfl⟩ := List.getLast?_eq_some_iff.mp hname
      rw [List.dropLast_concat] at hplace
      exact ⟨entry, hplace ▸ hmem⟩
    next => cases hname
  · rintro ⟨entry, hmem⟩
    exact ⟨_, hmem, by simp⟩

/-- What is listed lies deeper than the directory. -/
theorem length_lt_depth_of_mem_listing {t : FileTree} {place : Place} {name : Text}
    (h : name ∈ t.listing place) : place.length < t.depth := by
  obtain ⟨entry, hrow⟩ := mem_listing_iff_exists_mem.mp h
  have hlength := length_le_depth hrow
  rw [List.length_append, List.length_singleton] at hlength
  exact hlength

theorem lookup_cons_eq (place other : Place) (entry : Entry) (rest : List (Place × Entry)) :
    ((place, entry) :: rest).lookup other
      = if other = place then some entry else rest.lookup other := by
  rw [List.lookup_cons]
  by_cases h : other = place
  · simp [h]
  · have : (other == place) = false := by simpa using h
    simp [h, this]

theorem lookup_filter_ne (entries : List (Place × Entry)) (place other : Place) :
    (entries.filter (·.1 != place)).lookup other
      = if other = place then none else entries.lookup other := by
  induction entries with
  | nil => simp
  | cons row rest ih =>
    obtain ⟨at_, entry⟩ := row
    rw [List.filter_cons, lookup_cons_eq]
    by_cases hat : at_ = place
    · subst hat
      by_cases ho : other = at_ <;> simpa [ho] using ih
    · by_cases ho : other = at_
      · simp [ho, hat]
      · simpa [ho, hat, lookup_cons_eq] using ih

/-- Erasing a place changes what stands there and nothing else. -/
theorem get?_erase (t : FileTree) (place other : Place) (h : other ≠ []) :
    (t.erase place).get? other = if other = place then none else t.get? other := by
  simp only [get?, if_neg h, erase, lookup_filter_ne]

/-- Putting an entry at a place changes what stands there and nothing else. -/
theorem get?_put (t : FileTree) (place other : Place) (entry : Entry) (h : other ≠ []) :
    (t.put place entry).get? other = if other = place then some entry else t.get? other := by
  simp only [get?, if_neg h, put, erase, lookup_cons_eq, lookup_filter_ne]
  by_cases ho : other = place <;> simp [ho]

end FileTree

end RouteAtlas
