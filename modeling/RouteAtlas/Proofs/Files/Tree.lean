import RouteAtlas.Files.Tree
import Mathlib.Data.List.Infix
import Mathlib.Data.List.Nodup

/-!
# Rooted trees

In the file tree of a computer every entry stands in a directory: `FileTree.IsRooted`. What the
model allows besides, an entry below nothing or below a file, never comes about, since putting an
entry into a directory and erasing an entry that is no directory keep a tree rooted (`IsRooted.put`,
`IsRooted.erase`). Where a rooted tree has nothing, it has nothing below either
(`IsRooted.eq_none_below`).
-/

namespace RouteAtlas.FileTree

/-- Every entry stands in a directory. -/
def IsRooted (t : FileTree) : Prop :=
  ∀ place, (t.get? place).isSome = true → t.get? place.dropLast = some .directory

variable {t : FileTree} {place : Place} {entry : Entry}

@[simp] theorem get?_nil (t : FileTree) : t.get? [] = some .directory := if_pos rfl

/-- In a tree that holds nothing, nothing stands anywhere but at the root. -/
theorem get?_empty (hplace : place ≠ []) : ({} : FileTree).get? place = none := by
  rw [get?, if_neg hplace]
  rfl

theorem isRooted_empty : IsRooted {} := by
  intro place hplace
  by_cases hnil : place = []
  · rw [hnil]
    rfl
  · rw [get?_empty hnil] at hplace
    cases hplace

/-- Putting an entry below the root changes what stands at its place alone. -/
theorem get?_put_of_ne_nil (t : FileTree) (h : place ≠ []) (entry : Entry) (other : Place) :
    (t.put place entry).get? other = if other = place then some entry else t.get? other := by
  by_cases hother : other = []
  · rw [hother, if_neg (Ne.symm h), get?_nil, get?_nil]
  · exact get?_put t place other entry hother

/-- Erasing an entry below the root changes what stands at its place alone. -/
theorem get?_erase_of_ne_nil (t : FileTree) (h : place ≠ []) (other : Place) :
    (t.erase place).get? other = if other = place then none else t.get? other := by
  by_cases hother : other = []
  · rw [hother, if_neg (Ne.symm h), get?_nil, get?_nil]
  · exact get?_erase t place other hother

theorem get?_eq_none_iff (h : place ≠ []) :
    t.get? place = none ↔ ∀ row ∈ t.entries, row.1 ≠ place := by
  rw [get?, if_neg h, List.lookup_eq_none_iff]
  exact forall₂_congr fun row _ => by rw [bne_iff_ne, ne_comm]

/-- What stands somewhere is in the list of entries. -/
theorem mem_entries_iff (h : place ≠ []) :
    (place, entry) ∈ t.entries ↔ t.get? place = some entry := by
  rw [get?, if_neg h]
  constructor
  · intro hmem
    have hdistinct := t.distinct
    revert hmem hdistinct
    generalize t.entries = entries
    intro hmem hdistinct
    induction entries with
    | nil => cases hmem
    | cons row rest ih =>
      obtain ⟨other, found⟩ := row
      rw [List.map_cons, List.nodup_cons] at hdistinct
      rw [lookup_cons_eq]
      rcases List.mem_cons.mp hmem with heq | hlater
      · cases heq
        rw [if_pos rfl]
      · have hne : place ≠ other := by
          rintro rfl
          exact hdistinct.1 (List.mem_map.mpr ⟨_, hlater, rfl⟩)
        rw [if_neg hne, ih hlater hdistinct.2]
  · intro hlookup
    obtain ⟨front, back, hentries, -⟩ := List.lookup_eq_some_iff.mp hlookup
    rw [hentries]
    simp

/-- Whether a tree is rooted shows in the list of its entries. -/
theorem isRooted_of_entries (h : ∀ row ∈ t.entries, t.get? row.1.dropLast = some .directory) :
    t.IsRooted := by
  intro place hplace
  by_cases hnil : place = []
  · rw [hnil]
    rfl
  · obtain ⟨entry, hentry⟩ := Option.isSome_iff_exists.mp hplace
    exact h (place, entry) ((mem_entries_iff hnil).mpr hentry)

theorem eq_of_entries_eq {t u : FileTree} (h : t.entries = u.entries) (hmask : t.umask = u.umask) :
    t = u := by
  cases t
  cases u
  cases h
  cases hmask
  rfl

/-- Erasing what was put where nothing stood restores the tree. -/
theorem erase_put (h : place ≠ []) (hnone : t.get? place = none) (entry : Entry) :
    (t.put place entry).erase place = t := by
  have hfilter : t.entries.filter (·.1 != place) = t.entries :=
    List.filter_eq_self.mpr fun row hrow => bne_iff_ne.mpr ((get?_eq_none_iff h).mp hnone row hrow)
  have hentries : ((t.put place entry).erase place).entries = t.entries := by
    simp [erase, put, hfilter]
  exact eq_of_entries_eq hentries rfl

/-- What is put somewhere twice stands there as if it had been put there once. -/
theorem put_put (t : FileTree) (place : Place) (first second : Entry) :
    (t.put place first).put place second = t.put place second := by
  refine eq_of_entries_eq ?_ rfl
  simp [put, erase]

/-- Putting an entry somewhere makes no tree smaller. -/
theorem length_entries_le_put (t : FileTree) (place : Place) (entry : Entry) :
    t.entries.length ≤ (t.put place entry).entries.length := by
  have hsplit := t.entries.length_eq_countP_add_countP (·.1 == place)
  have hcount : t.entries.countP (·.1 == place) = (t.entries.map Prod.fst).count place := by
    rw [List.count, List.countP_map]
    rfl
  have honce : (t.entries.map Prod.fst).count place ≤ 1 :=
    List.nodup_iff_count_le_one.mp t.distinct place
  have hrest : (t.put place entry).entries.length =
      t.entries.countP (fun row => ¬(row.1 == place) = true) + 1 := by
    simp only [List.countP_eq_length_filter, put, erase, List.length_cons, bne, Bool.not_eq_true,
      Bool.decide_eq_false]
  omega

/-- A rooted tree that has nothing at a place has nothing below it. -/
theorem IsRooted.eq_none_below (hrooted : t.IsRooted) {below : Place}
    (hnone : t.get? place = none) (hbelow : place <+: below) : t.get? below = none := by
  obtain ⟨names, rfl⟩ := hbelow
  induction names using List.reverseRecOn with
  | nil => rwa [List.append_nil]
  | append_singleton names name ih =>
    by_contra hsome
    have hparent := hrooted _ (Option.isSome_iff_ne_none.mpr hsome)
    rw [← List.append_assoc, List.dropLast_concat, ih] at hparent
    exact absurd hparent (by simp)

/-- Above an entry of a rooted tree there are directories. -/
theorem IsRooted.directory_above (hrooted : t.IsRooted) {names : Place}
    (hget : t.get? (place ++ names) = some entry) (hnames : names ≠ []) :
    t.get? place = some .directory := by
  induction names using List.reverseRecOn generalizing entry with
  | nil => exact absurd rfl hnames
  | append_singleton names name ih =>
    have hparent := hrooted _ (Option.isSome_of_eq_some hget)
    rw [← List.append_assoc, List.dropLast_concat] at hparent
    by_cases hmore : names = []
    · rwa [hmore, List.append_nil] at hparent
    · exact ih hparent hmore

/-- An entry is put into a directory; where a directory stood, it has to be one. -/
theorem IsRooted.put (hrooted : t.IsRooted) (hplace : place ≠ [])
    (hparent : t.get? place.dropLast = some .directory)
    (hentry : t.get? place = some .directory → entry = .directory) :
    (t.put place entry).IsRooted := by
  intro other hother
  rw [get?_put_of_ne_nil t hplace] at hother ⊢
  have hdirectory : t.get? other.dropLast = some .directory := by
    by_cases heq : other = place
    · rw [heq, hparent]
    · rw [if_neg heq] at hother
      exact hrooted other hother
  by_cases heq : other.dropLast = place
  · rw [if_pos heq, hentry (heq ▸ hdirectory)]
  · rw [if_neg heq, hdirectory]

/-- What is no directory can be erased. -/
theorem IsRooted.erase (hrooted : t.IsRooted) (hplace : place ≠ [])
    (hentry : t.get? place ≠ some .directory) : (t.erase place).IsRooted := by
  intro other hother
  rw [get?_erase_of_ne_nil t hplace] at hother ⊢
  by_cases heq : other = place
  · rw [if_pos heq] at hother
    exact absurd hother (by simp)
  · rw [if_neg heq] at hother
    have hdirectory := hrooted other hother
    rw [if_neg fun h : other.dropLast = place => hentry (h ▸ hdirectory), hdirectory]

end RouteAtlas.FileTree
