import RouteAtlas.Proofs.Discovery.Walk

/-!
# What a walk comes to

A walk from a directory enters the directories in it whose names are not ignored, and no links
(`Source.Enters`). What it comes to are the entries of these directories with one of the endings
that are looked for, unless they lead to a directory themselves (`Source.IsBelow`).

The walk breaks off at an entry that cannot be looked up. In a tree where none is met
(`FileTree.IsWalkable`), it goes through to its end from every directory that it enters, and the
source files are exactly these entries, each of them once and in order (`Source.exists_files`).
Otherwise there are no source files to go on with, whatever was looked for
(`Source.isWalkable_or_files_eq_error`).

Two descriptions of a walk meet here. A walk by names says what is met under which relative path,
from wherever it starts; for what backends do with sources it is handier to speak of paths from the
root, of directories that are entered and of files below them. From a directory that stands at its
own path the one is the other (`isBelow_iff_isReached`), because the names of a path are then the
places that it leads through.
-/

namespace RouteAtlas

/-! ## Order -/

namespace Path

theorem le_sortsBy : SortsBy Path.le Path.names := by
  intro a b
  rw [Path.le, Bool.not_eq_true', decide_eq_false_iff_not, not_lt]

/-- Of two paths with one root, the first comes before the second. -/
def IsBefore (a b : Path) : Prop := a.root = b.root ∧ a.names < b.names

/-- A path that comes before another one is another one. -/
theorem IsBefore.ne {a b : Path} (h : IsBefore a b) : a ≠ b := by
  rintro rfl
  exact lt_irrefl _ h.2

/-- Paths in order are given by which paths they are. -/
theorem eq_of_pairwise_isBefore {paths others : List Path} (h : paths.Pairwise IsBefore)
    (hothers : others.Pairwise IsBefore) (hmem : ∀ path, path ∈ paths ↔ path ∈ others) :
    paths = others := by
  have hperm : paths.Perm others :=
    (List.perm_ext_iff_of_nodup (h.imp IsBefore.ne) (hothers.imp IsBefore.ne)).mpr hmem
  refine hperm.eq_of_pairwise (fun a b _ _ hab hba => ?_) h hothers
  exact absurd (hab.2.trans hba.2) (lt_irrefl _)

end Path

/-! ## Walks -/

namespace Source

/-- A walk from a directory enters another one, or starts there. -/
inductive Enters (t : FileTree) (ignored : List Text) (top : Path) : Path → Prop
  | top : Enters t ignored top top
  | child {directory : Path} {name : Text} (h : Enters t ignored top directory)
    (hignored : name ∉ ignored)
    (hentry : t.get? (directory.names ++ [name]) = some .directory) :
    Enters t ignored top (directory.child name)

/-- A walk from a directory comes to a file, or to a link that does not lead to a directory, and the
file has one of the endings that are looked for. -/
structure IsBelow (t : FileTree) (wanted : Wanted) (top file : Path) : Prop where
  entered : ∃ directory name, Enters t wanted.ignored top directory ∧ file = directory.child name
  ending : file.suffix ∈ wanted.suffixes
  entry : ∃ entry, t.get? file.names = some entry ∧ entry ≠ .directory ∧
    (entry.isLink = true → t.isDirectory file = false)

variable {t : FileTree} {ignored : List Text} {wanted : Wanted} {top middle directory file : Path}

namespace Enters

/-- A directory that is entered is below the top, and no name on the way is ignored. -/
theorem exists_names (h : Enters t ignored top directory) :
    ∃ names, directory = ⟨top.root, top.names ++ names⟩ ∧ ∀ name ∈ names, name ∉ ignored := by
  induction h with
  | top => exact ⟨[], by simp, fun _ h => by cases h⟩
  | @child directory name _ hignored _ ih =>
    obtain ⟨names, rfl, hall⟩ := ih
    refine ⟨names ++ [name], by simp [Path.child], ?_⟩
    rw [List.forall_mem_append, List.forall_mem_singleton]
    exact ⟨hall, hignored⟩

/-- What a walk enters is a directory, if it started in one. -/
theorem get? (h : Enters t ignored top directory) (htop : t.get? top.names = some .directory) :
    t.get? directory.names = some .directory := by
  cases h with
  | top => exact htop
  | child _ _ hentry => exact hentry

/-- On its way a walk enters all directories in between, and from each of them it goes on. -/
theorem of_between (h : Enters t ignored top directory) (hroot : middle.root = top.root)
    (htop : top.names <+: middle.names) (hmiddle : middle.names <+: directory.names) :
    Enters t ignored middle directory := by
  induction h with
  | top =>
    have hnames := hmiddle.eq_of_length_le htop.length_le
    obtain ⟨root, names⟩ := middle
    obtain rfl : root = top.root := hroot
    obtain rfl : names = top.names := hnames
    exact .top
  | @child directory name h hignored hentry ih =>
    by_cases heq : middle.names = directory.names ++ [name]
    · obtain ⟨names, rfl, -⟩ := h.exists_names
      obtain ⟨root, names'⟩ := middle
      obtain rfl : root = top.root := hroot
      obtain rfl : names' = _ := heq
      exact .top
    · refine .child (ih ?_) hignored hentry
      rcases List.prefix_concat_iff.mp hmiddle with hwhole | hpart
      · exact absurd hwhole heq
      · exact hpart

end Enters

theorem IsBelow.exists_names (h : IsBelow t wanted top file) :
    ∃ names, names ≠ [] ∧ file = ⟨top.root, top.names ++ names⟩ := by
  obtain ⟨directory, name, hentered, rfl⟩ := h.entered
  obtain ⟨names, rfl, -⟩ := hentered.exists_names
  exact ⟨names ++ [name], by simp, by simp [Path.child]⟩

theorem IsBelow.isAncestor (h : IsBelow t wanted top file) : top.isAncestor file = true := by
  obtain ⟨names, hne, rfl⟩ := h.exists_names
  have hlength := List.length_pos_iff.mpr hne
  simp [Path.isAncestor, hlength]

/-- What a walk comes to, it comes to from every directory on the way. -/
theorem IsBelow.of_between (h : IsBelow t wanted top file) (htop : top.root = middle.root)
    (hnames : top.names <+: middle.names) (hmiddle : middle.isAncestor file = true) :
    IsBelow t wanted middle file := by
  refine ⟨?_, h.ending, h.entry⟩
  obtain ⟨directory, name, hentered, rfl⟩ := h.entered
  refine ⟨directory, name, hentered.of_between htop.symm hnames ?_, rfl⟩
  unfold Path.isAncestor at hmiddle
  rw [Bool.and_eq_true, Bool.and_eq_true, decide_eq_true_eq, List.isPrefixOf_iff_prefix] at hmiddle
  obtain ⟨⟨-, hbegins⟩, hlength⟩ := hmiddle
  rcases List.prefix_concat_iff.mp hbegins with hwhole | hpart
  · rw [hwhole] at hlength
    exact absurd hlength (lt_irrefl _)
  · exact hpart

/-! ## Walks that go through -/

/-- From a directory that is entered, a walk goes on to meet what is in there. -/
theorem Enters.exists_meets {top directory : Path} (h : Enters t ignored top directory)
    (hrest : Meets t ignored directory.names rest) :
    ∃ names, directory = top.below names ∧ Meets t ignored top.names (names ++ rest) := by
  induction h generalizing rest with
  | top => exact ⟨[], by simp [Path.below], hrest⟩
  | @child directory name _ hignored hdirectory ih =>
    obtain ⟨names, rfl, hmeets⟩ := ih (.inside hignored hdirectory hrest)
    refine ⟨names ++ [name], by simp [Path.below, Path.child], ?_⟩
    rw [List.append_assoc]
    exact hmeets

/-- What a walk meets stands in a directory that it enters. -/
theorem Meets.exists_enters {top directory : Path} (h : Meets t ignored directory.names names)
    (hentered : Enters t ignored top directory) :
    ∃ parent name, Enters t ignored top parent ∧ directory.below names = parent.child name := by
  generalize hplace : directory.names = place at h
  induction h generalizing directory with
  | @entry place name hentry => exact ⟨directory, name, hentered, Path.below_singleton _ _⟩
  | @inside place name rest hname hdirectory hrest ih =>
    subst hplace
    rw [Path.below_cons]
    exact ih (hentered.child hname hdirectory) rfl

/-- Where all that is met can be looked up, the paths of what is no link lead to it. -/
theorem Meets.exists_get? (hnames : t.HasFileNames)
    (hpath : t.status path = .ok (place, .directory))
    (hlooked : ∀ names, Meets t ignored place names →
      ∃ found, t.status? (path.below names) = .ok found)
    (h : Meets t ignored place names) :
    ∃ entry, t.get? (place ++ names) = some entry ∧
      (entry.isLink = false → t.status? (path.below names) = .ok (some entry)) := by
  induction h generalizing path with
  | @entry place name hentry =>
    obtain ⟨entry, hget⟩ := Option.isSome_iff_exists.mp hentry
    refine ⟨entry, hget, fun hlink => ?_⟩
    obtain ⟨found, hfound⟩ := hlooked [name] (.entry hentry)
    obtain ⟨-, rfl⟩ := FileTree.status_child hnames hpath hget hlink hfound
    exact hfound
  | @inside place name rest hname hdirectory hrest ih =>
    obtain ⟨found, hfound⟩ := hlooked [name] (.entry (by rw [hdirectory]; rfl))
    obtain ⟨hchild, -⟩ := FileTree.status_child hnames hpath hdirectory rfl hfound
    rw [Path.below_cons, List.append_cons]
    refine ih hchild fun names hmeets => ?_
    rw [← Path.below_cons]
    exact hlooked _ (.inside hname hdirectory hmeets)

end Source

/-- A directory from which a walk goes through to its end: it stands at its own path, and every
entry that is met from there can be looked up. -/
structure FileTree.IsWalkable (t : FileTree) (root : Path) : Prop where
  rooted : t.IsRooted
  names : t.HasFileNames
  status_eq : t.status root = .ok (root.names, .directory)
  looked : ∀ names, Source.Meets t Source.ignoredDirectories root.names names →
    ∃ found, t.status? (root.below names) = .ok found

/-- The root of a walk is a directory at its own path. -/
theorem FileTree.IsWalkable.get?_names {t : FileTree} {root : Path} (h : t.IsWalkable root) :
    t.get? root.names = some .directory :=
  follow_taken (follow_of_status h.status_eq)

namespace Source

variable {t : FileTree} {wanted : Wanted} {root directory : Path} {names : List Text}

section Reached

variable (hnames : t.HasFileNames) (hroot : t.status root = .ok (root.names, .directory))
  (hlooked : ∀ names, Meets t wanted.ignored root.names names →
    ∃ found, t.status? (root.below names) = .ok found)

include hnames hroot hlooked

/-- From a directory that stands at its own path, the source files that a walk reaches are those
below. -/
theorem isBelow_iff_isReached :
    IsBelow t wanted root (root.below names) ↔ IsReached t wanted root root.names names := by
  -- The ending of a path is that of its last name.
  have hsuffix (hne : names ≠ []) :
      (root.below names).suffix = Path.suffixOf (names.getLastD []) := by
    rw [Path.suffix, Path.name, Path.below, List.getLastD_eq_getLast?, List.getLastD_eq_getLast?,
      List.getLast?_append_of_ne_nil _ hne]
  constructor
  · intro hbelow
    obtain ⟨directory, name, hentered, hfile⟩ := hbelow.entered
    obtain ⟨entry, hget, hkind, hlink⟩ := hbelow.entry
    have hmeets : Meets t wanted.ignored root.names names := by
      rw [hfile] at hget
      obtain ⟨front, rfl, hmeets⟩ := hentered.exists_meets
        (.entry (Option.isSome_of_eq_some hget))
      have heq : names = front ++ [name] := by
        have hwhole := congrArg Path.names hfile
        simpa [Path.below, Path.child] using hwhole
      rwa [heq]
    refine ⟨hmeets, ?_, hsuffix hmeets.ne_nil ▸ hbelow.ending⟩
    obtain ⟨other, hother, hleads⟩ := hmeets.exists_get? hnames hroot hlooked
    obtain rfl : entry = other := Option.some.inj (hget.symm.trans hother)
    cases hislink : entry.isLink with
    | true => exact hlink hislink
    | false =>
      rw [Bool.eq_false_iff, ne_eq, FileTree.isDirectory_iff_status? (hleads hislink)]
      exact fun heq => hkind (Option.some.inj heq)
  · intro hreached
    refine ⟨hreached.met.exists_enters .top, ?_, ?_⟩
    · rw [hsuffix hreached.met.ne_nil]
      exact hreached.ending
    · obtain ⟨entry, hget, hleads⟩ := hreached.met.exists_get? hnames hroot hlooked
      refine ⟨entry, hget, ?_, fun _ => hreached.noDirectory⟩
      rintro rfl
      exact not_isReached_of_directory (hleads rfl) hreached

end Reached

/-- There are source files to go on with if the walk goes through. -/
theorem files_eq_ok_iff {paths : List Path} :
    files t root wanted = .ok paths ↔ walk t root wanted = .ok ⟨paths, none⟩ := by
  unfold files
  rcases walk t root wanted with fault | ⟨found, fault?⟩
  · exact iff_of_false (fun h => by cases h) (fun h => by cases h)
  · cases fault? with
    | none =>
      refine ⟨fun h => ?_, fun h => ?_⟩ <;> cases h <;> rfl
    | some fault => exact iff_of_false (fun h => by cases h) (fun h => by cases h)

/-- **The source files below a directory** are what a walk comes to, each once and in order. -/
theorem exists_files (wanted : Wanted) (h : t.IsWalkable root)
    (hignored : wanted.ignored = ignoredDirectories) :
    ∃ paths, files t root wanted = .ok paths ∧ paths.Pairwise Path.IsBefore ∧
      ∀ file, file ∈ paths ↔ IsBelow t wanted root file := by
  have hlooked := h.looked
  rw [← hignored] at hlooked
  -- Everything that is met can be looked up, so there is no fault on the way.
  have hnone := (forall_looked_iff h.names h.status_eq).mpr hlooked
  have hfault := (fault_ofVisits_eq_none_iff root _).mpr hnone
  obtain ⟨front, hyielded, -, hwhole⟩ := exists_files_ofVisits root (visits t wanted root root.names)
  obtain rfl := hwhole hfault
  refine ⟨(found t wanted root root.names).map root.below, ?_, ?_, fun file => ?_⟩
  · rw [files_eq_ok_iff, walk_eq h.status_eq, ← hfault]
    exact congrArg (fun paths => Except.ok (Walk.mk paths _)) hyielded
  · exact List.pairwise_map.mpr ((pairwise_found t wanted root root.names).imp fun hlt =>
      ⟨rfl, List.append_left_lt hlt⟩)
  · rw [List.mem_map]
    constructor
    · rintro ⟨names, hfound, rfl⟩
      exact (isBelow_iff_isReached h.names h.status_eq hlooked).mpr
        ((mem_found_iff h.names h.status_eq hnone).mp hfound)
    · intro hbelow
      obtain ⟨names, -, rfl⟩ := hbelow.exists_names
      exact ⟨names, (mem_found_iff h.names h.status_eq hnone).mpr
        ((isBelow_iff_isReached h.names h.status_eq hlooked).mp hbelow), rfl⟩

/-- Where a walk goes through for some endings, every entry that is met can be looked up. -/
theorem isWalkable_of_files (hrooted : t.IsRooted) (hnames : t.HasFileNames)
    (hroot : t.status root = .ok (root.names, .directory))
    (hignored : wanted.ignored = ignoredDirectories) {paths : List Path}
    (hfiles : files t root wanted = .ok paths) : t.IsWalkable root := by
  rw [files_eq_ok_iff, walk_eq hroot] at hfiles
  have hfault := congrArg Walk.fault (Except.ok.inj hfiles)
  have hlooked := (forall_looked_iff hnames hroot).mp
    ((fault_ofVisits_eq_none_iff root _).mp hfault)
  rw [hignored] at hlooked
  exact ⟨hrooted, hnames, hroot, hlooked⟩

/-- A walk goes through, or an entry that it meets cannot be looked up and there are no source files
to go on with. -/
theorem isWalkable_or_files_eq_error (wanted : Wanted) (hrooted : t.IsRooted)
    (hnames : t.HasFileNames)
    (hroot : t.status root = .ok (root.names, .directory))
    (hignored : wanted.ignored = ignoredDirectories) :
    t.IsWalkable root ∨ ∃ names fault, Meets t ignoredDirectories root.names names ∧
      t.status? (root.below names) = .error fault ∧
      files t root wanted = .error (.unlookable fault) := by
  cases hfault : (Walk.ofVisits root (visits t wanted root root.names)).fault with
  | none =>
    have hfiles : files t root wanted =
        .ok (Walk.ofVisits root (visits t wanted root root.names)).files := by
      rw [files_eq_ok_iff, walk_eq hroot, ← hfault]
    exact .inl (isWalkable_of_files hrooted hnames hroot hignored hfiles)
  | some fault =>
    -- The fault of the walk is the fault of an entry that it meets.
    obtain ⟨names, hmeets, ⟨other, hstatus, heq⟩ | ⟨-, heq⟩⟩ :=
      exists_meets_of_mem_visits hnames hroot (mem_of_fault_ofVisits root _ hfault)
    · cases heq
      refine .inr ⟨names, fault, hignored ▸ hmeets, hstatus, ?_⟩
      unfold files
      rw [walk_eq hroot]
      show (Walk.finish _ >>= _) = _
      rw [Walk.finish, hfault]
      rfl
    · cases heq

/-- From every directory that a walk enters, it goes through if it does from where it started. -/
theorem Enters.isWalkable (h : Enters t ignoredDirectories root directory)
    (hroot : t.IsWalkable root) : t.IsWalkable directory where
  rooted := hroot.rooted
  names := hroot.names
  status_eq := by
    induction h with
    | top => exact hroot.status_eq
    | @child directory name hentered hignored hentry ih =>
      have hmet : Meets t ignoredDirectories directory.names [name] :=
        .entry (Option.isSome_of_eq_some hentry)
      obtain ⟨names, rfl, hmeets⟩ := hentered.exists_meets hmet
      obtain ⟨found, hfound⟩ := hroot.looked _ hmeets
      rw [Path.below_append, Path.below_singleton] at hfound
      exact (FileTree.status_child hroot.names ih hentry rfl hfound).1
  looked rest hrest := by
    obtain ⟨names, rfl, hmeets⟩ := h.exists_meets hrest
    obtain ⟨found, hfound⟩ := hroot.looked _ hmeets
    exact ⟨found, by rwa [Path.below_append] at hfound⟩

/-! ## Texts -/

/-- A source file in UTF-8 is read. -/
theorem read_eq_ok {path : Path} {bytes : Bytes} {text : Text}
    (hread : Files.read t path = .ok bytes) (hdecoded : Utf8.decodeMarked bytes = .ok text) :
    read t path = .ok (Text.unifyNewlines text) := by
  rw [read, hread]
  show ((Utf8.decodeMarked bytes).mapError _ >>= _) = _
  rw [hdecoded]
  rfl

end Source

/-- Whether a walk goes through a tree shows in the list of its entries. -/
theorem FileTree.isWalkable_of_entries {t : FileTree}
    (hrooted : ∀ row ∈ t.entries, t.get? row.1.dropLast = some .directory)
    (hnames : ∀ row ∈ t.entries, ∀ name ∈ row.1,
      isPlain name = true ∧ Path.isStorable name = true)
    (hroot : t.status ⟨.slash, []⟩ = .ok ([], .directory))
    (hlooked : ∀ row ∈ t.entries, (t.status? ⟨.slash, row.1⟩).isOk = true) :
    t.IsWalkable ⟨.slash, []⟩ where
  rooted := isRooted_of_entries hrooted
  names := hasFileNames_of_entries hnames
  status_eq := hroot
  looked names hmeets := by
    obtain ⟨entry, hentry⟩ := Option.isSome_iff_exists.mp hmeets.isSome_get?
    rw [List.nil_append] at hentry
    exact Except.exists_eq_ok_of_isOk
      (hlooked _ ((mem_entries_iff hmeets.ne_nil).mpr hentry))

end RouteAtlas
