import Mathlib
import RouteAtlas.Discovery.Source
import RouteAtlas.Proofs.Files.Canonical
import RouteAtlas.Proofs.Sorting

/-!
# What a walk yields

A walk meets the entries of the directory where it starts and of all directories that it enters from
there (`Source.Meets`). It yields those that are no directories and lead to none, with one of the
endings that are looked for (`Source.IsReached`). Because names are taken up in order and a
directory is left before the next name is taken up, the relative paths ascend
(`Source.pairwise_found`).

Nothing else can end a walk but an entry that cannot be looked up, since something about it is too
long (`FileTree.status?_eq_error`). So a walk yields all that it reaches unless it meets such an
entry, and in front of that it yields nothing else (`Source.walk_yields_reached`).

The whole of a walk is described by what it would come to if nothing ended it (`Source.visits`): a
list in which each item is the relative path of a source file or the fault of an entry. The walk
itself is that list up to its first fault, with the fault. So membership and order are shown of the
list once and for all, by the recursion into directories, and cutting it off keeps both.

An entry that is a directory is entered under its own path. That this path leads to the entry is
known of the file system (`FileTree.status_child`), and it is the only thing about paths and links
that is needed: a walk follows no link itself.
-/

namespace RouteAtlas

namespace Path

variable (directory : Path) (name : Text) (rest : List Text)

/-- One name leads to an entry of the directory. -/
theorem below_singleton : directory.below [name] = directory.child name := rfl

/-- The first name leads to a directory, and the others go on from there. -/
theorem below_cons : directory.below (name :: rest) = (directory.child name).below rest := by
  simp [below, child]

theorem below_append (names : List Text) :
    directory.below (names ++ rest) = (directory.below names).below rest := by
  simp [below]

end Path

namespace FileTree

variable {t : FileTree} {path : Path} {place : Place} {name : Text} {entry : Entry}

/-! ## Looking up the entries of a directory -/

/-- All names in a tree can be looked up: none is a dot or two, is too long or holds the character
that ends names. -/
structure HasFileNames (t : FileTree) : Prop where
  plain : t.HasPlainNames
  storable : ∀ place entry, t.get? place = some entry → ∀ name ∈ place, Path.isStorable name = true

/-- Whether all names can be looked up shows in the list of the entries. -/
theorem hasFileNames_of_entries
    (h : ∀ row ∈ t.entries, ∀ name ∈ row.1, isPlain name = true ∧ Path.isStorable name = true) :
    t.HasFileNames := by
  refine ⟨hasPlainNames_of_entries fun row hrow name hname => (h row hrow name hname).1, ?_⟩
  intro place entry hget name hname
  have hplace : place ≠ [] := List.ne_nil_of_mem hname
  exact (h _ ((mem_entries_iff hplace).mpr hget) name hname).2

/-- A directory lists the names under which there is something in it. -/
theorem mem_listing_iff : name ∈ t.listing place ↔ (t.get? (place ++ [name])).isSome = true := by
  rw [mem_listing_iff_exists_mem, Option.isSome_iff_exists]
  exact exists_congr fun entry => mem_entries_iff (List.concat_ne_nil _ _)

theorem pairwise_listing (t : FileTree) (place : Place) :
    (t.listing place).Pairwise (· < ·) := by
  have hplace (at_ : Place) (name : Text)
      (h : name ∈ if at_.dropLast = place then at_.getLast? else none) : at_ = place ++ [name] := by
    split at h
    next hparent =>
      rw [← hparent]
      exact (List.dropLast_append_getLast? name h).symm
    next => cases h
  have hnodup : (t.entries.filterMap fun row =>
      if row.1.dropLast = place then row.1.getLast? else none).Nodup := by
    refine (List.pairwise_map.mp t.distinct).filterMap _ ?_
    rintro one other hne name hone _ hother rfl
    exact hne ((hplace one.1 name hone).trans (hplace other.1 name hother).symm)
  have hsorts : SortsBy Text.le id := fun a b => Text.le_eq_true_iff
  refine (hsorts.pairwise_mergeSort hnodup).imp fun {a b} hab => ?_
  rcases hab with hlt | ⟨heq, hne⟩
  · exact hlt
  · exact absurd heq hne

/-- What can be asked for is not too long to be looked up. -/
theorem isLookable_of_status? {found : Option Entry}
    (hstorable : path.names.all Path.isStorable = true) (h : t.status? path = .ok found) :
    IsLookable path := by
  refine ⟨hstorable, Nat.le_of_not_lt fun hlong => ?_⟩
  have hlocate : t.locate path .followed = .error { reason := .nameTooLong, path } := by
    rw [locate, hstorable, if_neg (by simp), if_pos hlong]
  rw [status?, status, hlocate] at h
  cases h

/-- An entry that can be looked up is a directory if that is found. -/
theorem isDirectory_iff_status? {found : Option Entry} (h : t.status? path = .ok found) :
    t.isDirectory path = true ↔ found = some .directory := by
  unfold isDirectory
  unfold status? at h
  cases hstatus : t.status path with
  | error fault =>
    rw [hstatus] at h
    dsimp only at h
    split at h
    next =>
      cases h
      simp
    next => cases h
  | ok other =>
    rw [hstatus] at h
    cases h
    obtain ⟨at_, entry⟩ := other
    cases entry <;> simp [Entry.isDirectory]

/-- The path of an entry that is no link leads to it, if it can be looked up. -/
theorem status_child {found : Option Entry} (hnames : t.HasFileNames)
    (hpath : t.status path = .ok (place, .directory))
    (hentry : t.get? (place ++ [name]) = some entry) (hlink : entry.isLink = false)
    (hfound : t.status? (path.child name) = .ok found) :
    t.status (path.child name) = .ok (place ++ [name], entry) ∧ found = some entry := by
  have hstorable : (path.child name).names.all Path.isStorable = true := by
    rw [Path.child, List.all_append, (isLookable_of_status hpath).1, List.all_cons,
      hnames.storable _ _ hentry name (by simp)]
    rfl
  have hway := follow_of_status hpath
  obtain ⟨links, hon⟩ := follow_append hway
  have hplace : t.found (place ++ [name]) = .entry (place ++ [name]) := by
    rw [FileTree.found, hentry]
    cases entry with
    | link target => cases hlink
    | file | directory => rfl
  -- The name is neither a dot nor two, so it is looked for in the directory.
  have hlook := look_of_isPlain (follow_taken hway) (hnames.plain _ _ hentry name (by simp))
  rw [hplace] at hlook
  have hchild : t.follow .followed linkLimit [] (path.child name).names =
      .ok (.taken (place ++ [name]) entry) := by
    show t.follow .followed linkLimit [] (path.names ++ [name]) = _
    rw [hon _ _ (List.cons_ne_nil _ _), follow_of_entry hlook, follow_nil t _ _ hentry]
  have hstatus : t.status (path.child name) = .ok (place ++ [name], entry) := by
    rw [status_of_isLookable (isLookable_of_status? hstorable hfound), hchild]
  rw [status?, hstatus] at hfound
  exact ⟨hstatus, (Except.ok.inj hfound).symm⟩

end FileTree

namespace Source

variable {t : FileTree} {ignored : List Text} {wanted : Wanted} {path root : Path} {place : Place}
  {name : Text} {names rest : List Text} {fault : FileFault}

/-! ## What is met -/

/-- A walk from a directory meets the entries in it, and those that are met from each directory in
it unless the name of that is ignored. -/
inductive Meets (t : FileTree) (ignored : List Text) : Place → List Text → Prop
  | entry {place : Place} {name : Text} (hentry : (t.get? (place ++ [name])).isSome = true) :
    Meets t ignored place [name]
  | inside {place : Place} {name : Text} {rest : List Text} (hname : name ∉ ignored)
    (hdirectory : t.get? (place ++ [name]) = some .directory)
    (hrest : Meets t ignored (place ++ [name]) rest) : Meets t ignored place (name :: rest)

/-- A walk from a directory reaches a source file: an entry that is no directory and does not lead
to one, with one of the endings that are looked for. -/
structure IsReached (t : FileTree) (wanted : Wanted) (root : Path) (place : Place)
    (names : List Text) : Prop where
  met : Meets t wanted.ignored place names
  noDirectory : t.isDirectory (root.below names) = false
  ending : Path.suffixOf (names.getLastD []) ∈ wanted.suffixes

theorem Meets.ne_nil (h : Meets t ignored place names) : names ≠ [] := by
  cases h <;> exact List.cons_ne_nil _ _

/-- What is met is there. -/
theorem Meets.isSome_get? (h : Meets t ignored place names) :
    (t.get? (place ++ names)).isSome = true := by
  induction h with
  | entry hentry => exact hentry
  | @inside place name rest _ _ _ ih => rwa [List.append_cons]

/-- What is reached from a directory is reached from the one that it is entered from. -/
theorem IsReached.inside (hname : name ∉ wanted.ignored)
    (hdirectory : t.get? (place ++ [name]) = some .directory)
    (h : IsReached t wanted (path.child name) (place ++ [name]) rest) :
    IsReached t wanted path place (name :: rest) := by
  refine ⟨.inside hname hdirectory h.met, ?_, ?_⟩
  · rw [Path.below_cons]
    exact h.noDirectory
  · obtain ⟨first, others, rfl⟩ := List.exists_cons_of_ne_nil h.met.ne_nil
    exact h.ending

theorem IsReached.of_inside (h : IsReached t wanted path place (name :: rest))
    (hrest : Meets t wanted.ignored (place ++ [name]) rest) :
    IsReached t wanted (path.child name) (place ++ [name]) rest := by
  refine ⟨hrest, ?_, ?_⟩
  · rw [← Path.below_cons]
    exact h.noDirectory
  · obtain ⟨first, others, rfl⟩ := List.exists_cons_of_ne_nil hrest.ne_nil
    exact h.ending

theorem not_isReached_of_directory (h : t.status? (path.below names) = .ok (some .directory)) :
    ¬ IsReached t wanted path place names := by
  intro hreached
  have hdirectory := (FileTree.isDirectory_iff_status? h).mpr rfl
  rw [hreached.noDirectory] at hdirectory
  cases hdirectory

/-! ## One directory -/

/-- What a walk comes to at a name in a directory. -/
def visitsAt (t : FileTree) (wanted : Wanted) (path : Path) (place : Place) (name : Text) :
    List (Except FileFault (List Text)) :=
  match t.status? (path.child name) with
  | .error fault => [.error fault]
  | .ok (some .directory) =>
    if wanted.ignored.contains name || (t.get? (place ++ [name])).any Entry.isLink then []
    else (visits t wanted (path.child name) (place ++ [name])).map (Except.map (name :: ·))
  | .ok _ => if wanted.suffixes.contains (Path.suffixOf name) then [.ok [name]] else []

/-- What a walk comes to is what it comes to under each name, in their order. -/
theorem visits_eq : visits t wanted path place =
    (t.listing place).flatMap (visitsAt t wanted path place) := by
  conv_rhs => rw [← List.attach_map_subtype_val (t.listing place), List.flatMap_map]
  rw [visits]
  rfl

/-- That is a fault, a source file, or what is come to in a directory that is entered. -/
theorem visitsAt_cases (t : FileTree) (wanted : Wanted) (path : Path) (place : Place)
    (name : Text) :
    (∃ fault, t.status? (path.child name) = .error fault ∧
      visitsAt t wanted path place name = [.error fault]) ∨
    (t.status? (path.child name) = .ok (some .directory) ∧
      (name ∈ wanted.ignored ∨ (t.get? (place ++ [name])).any Entry.isLink = true) ∧
      visitsAt t wanted path place name = []) ∨
    (t.status? (path.child name) = .ok (some .directory) ∧ name ∉ wanted.ignored ∧
      (t.get? (place ++ [name])).any Entry.isLink = false ∧
      visitsAt t wanted path place name =
        (visits t wanted (path.child name) (place ++ [name])).map (Except.map (name :: ·))) ∨
    ∃ found, t.status? (path.child name) = .ok found ∧ found ≠ some .directory ∧
      visitsAt t wanted path place name =
        if Path.suffixOf name ∈ wanted.suffixes then [.ok [name]] else [] := by
  unfold visitsAt
  split
  next fault hstatus => exact .inl ⟨fault, hstatus, rfl⟩
  next hstatus =>
    split
    -- A directory is passed over for its name or because it is behind a link.
    next hpassed =>
      rw [Bool.or_eq_true, List.contains_iff_mem] at hpassed
      exact .inr (.inl ⟨hstatus, hpassed, rfl⟩)
    next hentered =>
      rw [Bool.or_eq_true, List.contains_iff_mem, not_or, Bool.not_eq_true] at hentered
      exact .inr (.inr (.inl ⟨hstatus, hentered.1, hentered.2, rfl⟩))
  next found hother hstatus =>
    refine .inr (.inr (.inr ⟨found, hstatus, hother, ?_⟩))
    simp only [List.contains_iff_mem]

/-! ## Order -/

/-- The names that lead to the source files that a walk comes to. -/
def found (t : FileTree) (wanted : Wanted) (path : Path) (place : Place) : List (List Text) :=
  (visits t wanted path place).filterMap Except.toOption

/-- Of results, those without a fault are left. -/
theorem mem_filterMap_toOption {ε α : Type} {a : α} {results : List (Except ε α)} :
    a ∈ results.filterMap Except.toOption ↔ .ok a ∈ results := by
  rw [List.mem_filterMap]
  constructor
  · rintro ⟨result, hresult, ha⟩
    cases result with
    | error => cases ha
    | ok other =>
      cases ha
      exact hresult
  · exact fun h => ⟨_, h, rfl⟩

/-- What is done with them may be done later. -/
theorem filterMap_toOption_map {ε α β : Type} (f : α → β) (results : List (Except ε α)) :
    (results.map (Except.map f)).filterMap Except.toOption =
      (results.filterMap Except.toOption).map f := by
  rw [List.filterMap_map, List.map_filterMap]
  refine List.filterMap_congr fun result _ => ?_
  cases result <;> rfl

/-- What is come to under a name has that name in front. -/
theorem exists_eq_cons_of_mem_visitsAt (h : .ok names ∈ visitsAt t wanted path place name) :
    ∃ rest, names = name :: rest := by
  rcases visitsAt_cases t wanted path place name with ⟨fault, -, hvisits⟩ | ⟨-, -, hvisits⟩ |
    ⟨-, -, -, hvisits⟩ | ⟨found, -, -, hvisits⟩
  all_goals rw [hvisits] at h
  · cases List.mem_singleton.mp h
  · cases h
  · obtain ⟨inner, -, hinner⟩ := List.mem_map.mp h
    cases inner with
    | error => cases hinner
    | ok rest =>
      cases hinner
      exact ⟨rest, rfl⟩
  · split at h
    · cases List.mem_singleton.mp h
      exact ⟨[], rfl⟩
    · cases h

/-- **What a walk comes to ascends**: below two names of a directory by the names, and below one of
them by what is inside. -/
theorem pairwise_found (t : FileTree) (wanted : Wanted) (path : Path) (place : Place) :
    (found t wanted path place).Pairwise (· < ·) := by
  induction path, place using visits.induct t with
  | case1 path place ih =>
    unfold found
    rw [visits_eq, List.filterMap_flatMap, List.pairwise_flatMap]
    constructor
    · intro name hname
      rcases visitsAt_cases t wanted path place name with ⟨fault, -, hvisits⟩ | ⟨-, -, hvisits⟩ |
        ⟨-, -, -, hvisits⟩ | ⟨found, -, -, hvisits⟩
      all_goals rw [hvisits]
      · exact List.Pairwise.nil
      · exact List.Pairwise.nil
      · rw [filterMap_toOption_map, List.pairwise_map]
        exact (ih name hname).imp fun hlt => List.cons_lt_cons_iff.mpr (.inr ⟨rfl, hlt⟩)
      · split
        · exact List.pairwise_singleton _ _
        · exact List.Pairwise.nil
    · refine (FileTree.pairwise_listing t place).imp fun {a b} hab one hone other hother => ?_
      obtain ⟨rest, rfl⟩ := exists_eq_cons_of_mem_visitsAt (mem_filterMap_toOption.mp hone)
      obtain ⟨rest', rfl⟩ := exists_eq_cons_of_mem_visitsAt (mem_filterMap_toOption.mp hother)
      exact List.cons_lt_cons_iff.mpr (.inl hab)

/-! ## What is come to is met -/

section Reached

variable (hnames : t.HasFileNames)

include hnames

/-- A directory that is entered is found under its path, as is the one that it stands in. -/
theorem status_of_entered (hpath : t.status path = .ok (place, .directory))
    (hname : name ∈ t.listing place)
    (hstatus : t.status? (path.child name) = .ok (some .directory))
    (hlink : (t.get? (place ++ [name])).any Entry.isLink = false) :
    t.status (path.child name) = .ok (place ++ [name], .directory) ∧
      t.get? (place ++ [name]) = some .directory := by
  obtain ⟨entry, hentry⟩ := Option.isSome_iff_exists.mp (FileTree.mem_listing_iff.mp hname)
  rw [hentry] at hlink
  obtain ⟨hchild, hdirectory⟩ := FileTree.status_child hnames hpath hentry hlink hstatus
  obtain rfl := Option.some.inj hdirectory
  exact ⟨hchild, hentry⟩

/-- What a walk comes to is an entry that it meets: one that cannot be looked up, or a source file
that it reaches. -/
theorem exists_meets_of_mem_visits {visit : Except FileFault (List Text)}
    (hpath : t.status path = .ok (place, .directory))
    (h : visit ∈ visits t wanted path place) :
    ∃ names, Meets t wanted.ignored place names ∧
      ((∃ fault, t.status? (path.below names) = .error fault ∧ visit = .error fault) ∨
        IsReached t wanted path place names ∧ visit = .ok names) := by
  induction path, place using visits.induct t generalizing visit with
  | case1 path place ih =>
    rw [visits_eq, List.mem_flatMap] at h
    obtain ⟨name, hname, h⟩ := h
    have hentry := FileTree.mem_listing_iff.mp hname
    rcases visitsAt_cases t wanted path place name with ⟨fault, hstatus, hvisits⟩ |
      ⟨-, -, hvisits⟩ | ⟨hstatus, hignored, hlink, hvisits⟩ | ⟨found, hstatus, hother, hvisits⟩
    all_goals rw [hvisits] at h
    · exact ⟨[name], .entry hentry, .inl ⟨fault, hstatus, List.mem_singleton.mp h⟩⟩
    · cases h
    · -- It comes from the directory that is entered, where the induction says what it is.
      obtain ⟨inner, hinner, rfl⟩ := List.mem_map.mp h
      obtain ⟨hchild, hdirectory⟩ := status_of_entered hnames hpath hname hstatus hlink
      obtain ⟨rest, hrest, hcase⟩ := ih name hname hchild hinner
      refine ⟨name :: rest, .inside hignored hdirectory hrest, ?_⟩
      rcases hcase with ⟨fault, hfault, rfl⟩ | ⟨hreached, rfl⟩
      · exact .inl ⟨fault, by rwa [Path.below_cons], rfl⟩
      · exact .inr ⟨hreached.inside hignored hdirectory, rfl⟩
    · split at h
      next hending =>
        refine ⟨[name], .entry hentry, .inr ⟨⟨.entry hentry, ?_, hending⟩,
          List.mem_singleton.mp h⟩⟩
        rw [Path.below_singleton, Bool.eq_false_iff, ne_eq, FileTree.isDirectory_iff_status? hstatus]
        exact hother
      next => cases h

/-- A walk comes to no path but that of a source. -/
theorem isReached_of_mem_visits (hpath : t.status path = .ok (place, .directory))
    (h : .ok names ∈ visits t wanted path place) : IsReached t wanted path place names := by
  obtain ⟨other, -, ⟨fault, -, heq⟩ | ⟨hreached, heq⟩⟩ := exists_meets_of_mem_visits hnames hpath h
  · cases heq
  · cases heq
    exact hreached

/-- Unless something on the way cannot be looked up, a walk from a directory looks up whatever it
meets, and comes to it if that is a source file. -/
theorem visits_of_meets (hpath : t.status path = .ok (place, .directory))
    (h : Meets t wanted.ignored place names) :
    (∃ fault, .error fault ∈ visits t wanted path place) ∨
      (∃ found, t.status? (path.below names) = .ok found) ∧
        (IsReached t wanted path place names → .ok names ∈ visits t wanted path place) := by
  have hcomes {path place name} {visit : Except FileFault (List Text)}
      (hentry : (t.get? (place ++ [name])).isSome = true)
      (hvisit : visit ∈ visitsAt t wanted path place name) :
      visit ∈ visits t wanted path place := by
    rw [visits_eq]
    exact List.mem_flatMap_of_mem (FileTree.mem_listing_iff.mpr hentry) hvisit
  induction h generalizing path with
  | @entry place name hentry =>
    rcases visitsAt_cases t wanted path place name with ⟨fault, hstatus, hvisits⟩ |
      ⟨hstatus, -, -⟩ | ⟨hstatus, -, -, -⟩ | ⟨found, hstatus, hother, hvisits⟩
    · exact .inl ⟨fault, hcomes hentry (hvisits ▸ List.mem_singleton_self _)⟩
    · exact .inr ⟨⟨_, hstatus⟩, fun hreached => absurd hreached (not_isReached_of_directory hstatus)⟩
    · exact .inr ⟨⟨_, hstatus⟩, fun hreached => absurd hreached (not_isReached_of_directory hstatus)⟩
    · refine .inr ⟨⟨_, hstatus⟩, fun hreached => hcomes hentry ?_⟩
      have hending : Path.suffixOf name ∈ wanted.suffixes := hreached.ending
      rw [hvisits, if_pos hending]
      exact List.mem_singleton_self _
  | @inside place name rest hname hdirectory hrest ih =>
    have hentry : (t.get? (place ++ [name])).isSome = true := by
      rw [hdirectory]
      rfl
    rcases visitsAt_cases t wanted path place name with ⟨fault, -, hvisits⟩ |
      ⟨-, hpassed, -⟩ | ⟨hstatus, -, -, hvisits⟩ | ⟨found, hstatus, hother, -⟩
    · exact .inl ⟨fault, hcomes hentry (hvisits ▸ List.mem_singleton_self _)⟩
    · -- The directory was entered to meet what is in it.
      rw [hdirectory] at hpassed
      rcases hpassed with hignored | hlink
      · exact absurd hignored hname
      · cases hlink
    · obtain ⟨hchild, -⟩ := FileTree.status_child hnames hpath hdirectory rfl hstatus
      rcases ih hchild with ⟨fault, hfault⟩ | ⟨hlooked, hcome⟩
      · exact .inl ⟨fault, hcomes hentry (hvisits ▸ List.mem_map_of_mem hfault)⟩
      · refine .inr ⟨by rwa [Path.below_cons], fun hreached => hcomes hentry ?_⟩
        rw [hvisits]
        exact List.mem_map_of_mem (hcome (hreached.of_inside hrest))
    · obtain ⟨-, hfound⟩ := FileTree.status_child hnames hpath hdirectory rfl hstatus
      exact absurd hfound hother

/-- All that a walk meets can be looked up unless it comes to something that cannot. -/
theorem forall_looked_iff (hpath : t.status path = .ok (place, .directory)) :
    (∀ fault, .error fault ∉ visits t wanted path place) ↔
      ∀ names, Meets t wanted.ignored place names →
        ∃ found, t.status? (path.below names) = .ok found := by
  constructor
  · intro hnone names hmeets
    rcases visits_of_meets hnames hpath hmeets with ⟨fault, hmem⟩ | ⟨hlooked, -⟩
    · exact absurd hmem (hnone fault)
    · exact hlooked
  · intro hlooked fault hmem
    obtain ⟨names, hmeets, ⟨fault, hstatus, -⟩ | ⟨-, heq⟩⟩ :=
      exists_meets_of_mem_visits hnames hpath hmem
    · obtain ⟨found, hfound⟩ := hlooked names hmeets
      rw [hfound] at hstatus
      cases hstatus
    · cases heq

/-- **What is yielded without a fault**: all that is reached, and nothing else. -/
theorem mem_found_iff (hpath : t.status path = .ok (place, .directory))
    (hnone : ∀ fault, .error fault ∉ visits t wanted path place) :
    names ∈ found t wanted path place ↔ IsReached t wanted path place names := by
  rw [found, mem_filterMap_toOption]
  constructor
  · exact isReached_of_mem_visits hnames hpath
  · intro hreached
    rcases visits_of_meets hnames hpath hreached.met with ⟨fault, hmem⟩ | ⟨-, hcome⟩
    · exact absurd hmem (hnone fault)
    · exact hcome hreached

end Reached

/-! ## Walks -/

section OfVisits

variable (root : Path) (visits : List (Except FileFault (List Text)))

/-- A walk yields the source files in front of the first entry that cannot be looked up, and all of
them if there is none. -/
theorem exists_files_ofVisits :
    ∃ front, (Walk.ofVisits root visits).files = front.map root.below ∧
      front <+: visits.filterMap Except.toOption ∧
      ((Walk.ofVisits root visits).fault = none → front = visits.filterMap Except.toOption) := by
  induction visits with
  | nil => exact ⟨[], rfl, List.nil_prefix, fun _ => rfl⟩
  | cons visit rest ih =>
    cases visit with
    | error fault =>
      refine ⟨[], rfl, List.nil_prefix, fun hnone => ?_⟩
      rw [Walk.ofVisits] at hnone
      cases hnone
    | ok names =>
      obtain ⟨front, hfiles, hfront, hwhole⟩ := ih
      refine ⟨names :: front, by rw [Walk.ofVisits, List.map_cons, hfiles], ?_, fun hnone => ?_⟩
      · exact (List.prefix_cons_inj names).mpr hfront
      · rw [hwhole hnone]
        rfl

/-- A walk goes through if there is no fault on its way. -/
theorem fault_ofVisits_eq_none_iff :
    (Walk.ofVisits root visits).fault = none ↔ ∀ fault, .error fault ∉ visits := by
  induction visits with
  | nil => exact iff_of_true rfl fun _ => List.not_mem_nil
  | cons visit rest ih =>
    cases visit with
    | error fault =>
      refine iff_of_false (fun hnone => ?_) fun hnot => hnot fault List.mem_cons_self
      rw [Walk.ofVisits] at hnone
      cases hnone
    | ok names =>
      rw [Walk.ofVisits]
      simpa using ih

theorem mem_of_fault_ofVisits (h : (Walk.ofVisits root visits).fault = some fault) :
    .error fault ∈ visits := by
  induction visits with
  | nil => cases h
  | cons visit rest ih =>
    cases visit with
    | error other =>
      cases h
      exact List.mem_cons_self
    | ok names => exact List.mem_cons_of_mem _ (ih h)

end OfVisits

/-- A walk from a directory is what it comes to there, up to the first fault. -/
theorem walk_eq (hroot : t.status root = .ok (place, .directory)) :
    walk t root wanted = .ok (Walk.ofVisits root (visits t wanted root place)) := by
  rw [walk, hroot]
  rfl

/-- **A walk yields the source files that it reaches**, in ascending order, each of them once. If
all that it meets can be looked up, it yields all of them. Otherwise it breaks off. -/
theorem walk_yields_reached (hnames : t.HasFileNames)
    (hroot : t.status root = .ok (place, .directory)) (wanted : Wanted) :
    ∃ (w : Walk) (relatives : List (List Text)), walk t root wanted = .ok w ∧
      w.files = relatives.map root.below ∧ relatives.Pairwise (· < ·) ∧
      (∀ names ∈ relatives, IsReached t wanted root place names) ∧
      (w.fault = none ↔ ∀ names, Meets t wanted.ignored place names →
        ∃ found, t.status? (root.below names) = .ok found) ∧
      (w.fault = none → ∀ names, IsReached t wanted root place names → names ∈ relatives) := by
  obtain ⟨relatives, hfiles, hfront, hwhole⟩ :=
    exists_files_ofVisits root (visits t wanted root place)
  have hfault := fault_ofVisits_eq_none_iff root (visits t wanted root place)
  refine ⟨_, relatives, walk_eq hroot, hfiles, ?_, ?_, ?_, ?_⟩
  · exact (pairwise_found t wanted root place).sublist hfront.sublist
  · intro names hmem
    exact isReached_of_mem_visits hnames hroot (mem_filterMap_toOption.mp (hfront.subset hmem))
  · exact hfault.trans (forall_looked_iff hnames hroot)
  · intro hnone names hreached
    rw [hwhole hnone]
    exact (mem_found_iff hnames hroot (hfault.mp hnone)).mpr hreached

/-- A tree with a directory to ignore, one whose name has an ending, and a link of either kind. -/
def walkedTree : FileTree where
  entries := [(["e.py".toList], .link "a/b.py".toList), (["a.py".toList], .directory),
    (["a.py".toList, "c.py".toList], .file [] 0o644), (["a".toList], .directory),
    (["a".toList, "b.py".toList], .file [] 0o644), (["bin".toList], .directory),
    (["bin".toList, "d.py".toList], .file [] 0o644), (["f".toList], .link ['a'])]
  distinct := by decide

/-- The walk there passes over the directory to ignore and the link to a directory, but not over the
link to a file. -/
theorem walk_yields_reached_in_directories :
    walkedTree.HasFileNames ∧
      walkedTree.status ⟨.slash, []⟩ = .ok ([], .directory) ∧
      ∃ w, walk walkedTree ⟨.slash, []⟩ { suffixes := [".py".toList] } = .ok w ∧
        w.files = [⟨.slash, ["a".toList, "b.py".toList]⟩, ⟨.slash, ["a.py".toList, "c.py".toList]⟩,
          ⟨.slash, ["e.py".toList]⟩] := by
  have hnames : walkedTree.HasFileNames := FileTree.hasFileNames_of_entries (by decide +kernel)
  have hroot : walkedTree.status ⟨.slash, []⟩ = .ok ([], .directory) := by cbv
  obtain ⟨w, relatives, hw, -⟩ :=
    walk_yields_reached hnames hroot { suffixes := [".py".toList] }
  have hwalk : walk walkedTree ⟨.slash, []⟩ { suffixes := [".py".toList] } =
      .ok ⟨[⟨.slash, ["a".toList, "b.py".toList]⟩, ⟨.slash, ["a.py".toList, "c.py".toList]⟩,
        ⟨.slash, ["e.py".toList]⟩], none⟩ := by
    cbv
  exact ⟨hnames, hroot, w, hw, by cases hwalk.symm.trans hw; rfl⟩

/-- A tree with a link that leads nowhere. -/
def danglingTree : FileTree where
  entries := [(["a.py".toList], .link "nowhere".toList)]
  distinct := by decide

/-- A tree with a file and a link to a name that is too long. -/
def longLinkTree : FileTree where
  entries := [(["a".toList], .link (List.replicate 256 'x')), (["b.py".toList], .file [] 0o644)]
  distinct := by decide

-- The name that is too long is taken apart character by character.
set_option maxRecDepth 4096 in
/-- **Links that lead to no entry.** If its name is not too long, such a link is yielded like a
file. Otherwise it keeps the walk from the files behind it. -/
theorem walk_of_odd_links :
    (danglingTree.status ⟨.slash, ["a.py".toList]⟩ =
        .error { reason := .missing, path := ⟨.slash, ["a.py".toList]⟩ } ∧
      walk danglingTree ⟨.slash, []⟩ { suffixes := [".py".toList] } =
        .ok ⟨[⟨.slash, ["a.py".toList]⟩], none⟩) ∧
    longLinkTree.status ⟨.slash, ["b.py".toList]⟩ = .ok (["b.py".toList], .file [] 0o644) ∧
      walk longLinkTree ⟨.slash, []⟩ { suffixes := [".py".toList] } =
        .ok ⟨[], some { reason := .nameTooLong, path := ⟨.slash, ["a".toList]⟩ }⟩ := by
  exact ⟨⟨by cbv, by cbv⟩, by cbv, by cbv⟩

end Source

end RouteAtlas
