import Mathlib
import RouteAtlas.Discovery.Controllers
import RouteAtlas.Proofs.Discovery.Result
import RouteAtlas.Proofs.Discovery.Source

/-!
# Projects and their sources

The projects of a repository are the directories in which a walk from its root comes to a project
file (`IsProject`). They may lie within each other, as deep as they like. Each project walks all
that lies below it and leaves out what belongs to a project further down, so it is left with the
sources that it is the nearest project above (`IsNearest`, `exists_ownFiles`). A source is therefore
scanned once, by its nearest project, and by no other one (`scanned_by_nearest`); unless something
that the walk from the root meets cannot be looked up, which ends the discovery before it goes
through any project.

What the scan of a project results in depends on the sources that it is left with and on nothing
else (`resultsIn_scanProject`).

A walk from a project meets nothing that a walk from the root does not meet: the project was entered
by the one, so that the other one goes on from there. Hence if the walk from the root goes through,
those from the projects do (`IsProject.isWalkable`). That a source has a nearest project is seen
from the way to it: of the projects on the way, which is finite, the last one is it.
-/

namespace RouteAtlas

/-- A path is above another one if its names are the first ones of that, and not all of them. -/
theorem Path.isAncestor_iff {a p : Path} :
    a.isAncestor p = true ↔
      a.root = p.root ∧ a.names <+: p.names ∧ a.names.length < p.names.length := by
  rw [isAncestor, Bool.and_eq_true, Bool.and_eq_true, decide_eq_true_eq, beq_iff_eq,
    List.isPrefixOf_iff_prefix, and_assoc]

/-! ## Leaving out repetitions -/

section EraseReps

variable {α : Type} [BEq α]

/-- What is kept so far stands in front. -/
theorem eraseRepsBy_loop_eq (a : α) (rest kept : List α) :
    List.eraseRepsBy.loop (· == ·) a rest kept =
      kept.reverse ++ List.eraseRepsBy.loop (· == ·) a rest [] := by
  induction rest generalizing a kept with
  | nil => simp [List.eraseRepsBy.loop]
  | cons b rest ih =>
    rw [List.eraseRepsBy.loop, List.eraseRepsBy.loop]
    split
    · exact ih a kept
    · rw [ih b (a :: kept), ih b [a]]
      simp

variable [LawfulBEq α]

/-- Of neighbours that are equal, one is left. -/
theorem eraseReps_cons_cons (a b : α) (rest : List α) :
    (a :: b :: rest).eraseReps =
      if a == b then (b :: rest).eraseReps else a :: (b :: rest).eraseReps := by
  by_cases h : a == b
  · obtain rfl := eq_of_beq h
    rw [if_pos h, List.eraseReps, List.eraseRepsBy, List.eraseRepsBy.loop, h]
    rfl
  · have hne : (a == b) = false := by simpa using h
    rw [if_neg h, List.eraseReps, List.eraseRepsBy, List.eraseRepsBy.loop, hne]
    exact eraseRepsBy_loop_eq b rest [a]

/-- Leaving out repetitions leaves the same elements. -/
theorem mem_eraseReps {l : List α} {x : α} : x ∈ l.eraseReps ↔ x ∈ l := by
  induction l with
  | nil => rfl
  | cons a l ih =>
    cases l with
    | nil => rfl
    | cons b rest =>
      rw [eraseReps_cons_cons]
      split
      next h =>
        obtain rfl := eq_of_beq h
        rw [ih]
        simp
      next => rw [List.mem_cons, ih, List.mem_cons (a := x) (b := a)]

/-- Without repetitions, what stands in order stands strictly in order. -/
theorem pairwise_eraseReps {R : α → α → Prop} (hantisymm : ∀ a b, R a b → R b a → a = b)
    {l : List α} (h : l.Pairwise R) : l.eraseReps.Pairwise fun a b => R a b ∧ a ≠ b := by
  induction l with
  | nil => exact .nil
  | cons a l ih =>
    rw [List.pairwise_cons] at h
    cases l with
    | nil => exact List.pairwise_singleton _ a
    | cons b rest =>
      rw [eraseReps_cons_cons]
      split
      next => exact ih h.2
      next hne =>
        refine List.pairwise_cons.mpr ⟨fun x hx => ?_, ih h.2⟩
        rw [mem_eraseReps] at hx
        refine ⟨h.1 x hx, ?_⟩
        rintro rfl
        rcases List.mem_cons.mp hx with rfl | hlater
        · simp at hne
        · have hback := (List.pairwise_cons.mp h.2).1 a hlater
          rw [hantisymm a b (h.1 b List.mem_cons_self) hback] at hne
          simp at hne

end EraseReps

namespace Controllers

open Scan (ResultsIn)

variable {t : FileTree} {root project : Path} {projects : List Path}

/-! ## The scan of a project -/

/-- The sources of a project that lie in no project further down. -/
def ownFiles (t : FileTree) (projects : List Path) (project : Path) :
    Except DiscoveryFault (List Path) := do
  let files ← Source.files t project sourceFiles
  pure (files.filter fun file => !isNested projects project file)

/-- The classes of some sources, unless one of these cannot be read. -/
def classesIn (t : FileTree) (files : List Path) : Except DiscoveryFault (List ClassDecl) := do
  let classes ← files.mapM fun file => (classesOf · file) <$> Source.read t file
  pure classes.flatten

/-- The routes of controllers: first their own ones, then those of their endpoints. -/
def routesOfControllers (t : FileTree) (root : Path) (controllers : List ClassDecl) :
    Except DiscoveryFault (List Discovered) := do
  let groups ← controllers.mapM fun c =>
    (fun file => (c.controllerRoute file, c.endpoints file)) <$> Source.relative t root c.file
  pure (groups.map (·.1) ++ groups.flatMap (·.2))

/-- The routes that come of a project. Its sources are read when the walk comes to them, so that one
that cannot be read is at fault before a walk that breaks off behind it. -/
def routesOfProject (t : FileTree) (root : Path) (projects : List Path) (project : Path) :
    Except DiscoveryFault (List Discovered) := do
  let w ← Source.walk t project sourceFiles
  let classes ← classesIn t (w.files.filter fun file => !isNested projects project file)
  w.finish
  routesOfControllers t root (findControllers classes)

/-- Sources of projects further down make no difference. -/
theorem flatten_mapM_filter {α β : Type} {nested : β → Bool}
    (read : β → Except DiscoveryFault (List α)) (files : List β) :
    List.flatten <$> (files.mapM fun file => if nested file then .ok [] else read file) =
      List.flatten <$> ((files.filter fun file => !nested file).mapM read) := by
  -- What is found first stands in front of the rest, if there is a rest.
  have hcons (found : List α) (rest : Except DiscoveryFault (List (List α))) :
      List.flatten <$> (rest >>= fun rest => pure (found :: rest)) =
        (found ++ ·) <$> (List.flatten <$> rest) := by
    cases rest <;> rfl
  induction files with
  | nil => rfl
  | cons file files ih =>
    rw [List.mapM_cons]
    cases hnested : nested file with
    | true =>
      rw [List.filter_cons_of_neg (by simp [hnested]), ← ih, if_pos rfl]
      cases files.mapM fun file => if nested file then .ok [] else read file <;> rfl
    | false =>
      rw [List.filter_cons_of_pos (by simp [hnested]), List.mapM_cons, if_neg (by simp)]
      cases read file with
      | error fault => rfl
      | ok found =>
        show List.flatten <$> (_ >>= fun rest => pure (found :: rest)) =
          List.flatten <$> (_ >>= fun rest => pure (found :: rest))
        rw [hcons, hcons, ih]

/-- Where the walk goes through, the routes are those of the project's own sources. -/
theorem routesOfProject_eq {own : List Path} (h : ownFiles t projects project = .ok own) :
    routesOfProject t root projects project =
      classesIn t own >>= fun classes => routesOfControllers t root (findControllers classes) := by
  obtain ⟨files, hfiles, hown⟩ := Except.bind_eq_ok.mp h
  rw [Source.files_eq_ok_iff] at hfiles
  cases hown
  rw [routesOfProject, hfiles]
  rfl

/-- **What the scan of a project results in** depends on its own sources alone: on their classes,
and on how the files of the controllers are called in the repository. -/
theorem resultsIn_scanProject (t : FileTree) (root : Path) (projects : List Path)
    (project : Path) :
    ResultsIn (scanProject t root projects project) (routesOfProject t root projects project) := by
  have hfile (file : Path) : ResultsIn (scanFile t projects project file)
      (if isNested projects project file then .ok []
        else (classesOf · file) <$> Source.read t file) := by
    refine .behind .check ?_
    split
    · exact .pure []
    · exact .bind (.ofExcept _) fun source => .pure _
  have hroutes (controllers : List ClassDecl) :
      ResultsIn (do
        let groups ← controllers.mapM (routesOfController t root)
        (controllers.zip (groups.map (·.2))).forM fun row => reportEndpoints row.1 row.2
        pure (groups.map (·.1) ++ groups.flatMap (·.2)))
        (routesOfControllers t root controllers) := by
    refine .bind (.mapM fun c => .bind (.ofExcept _) fun file => .pure _) fun groups => ?_
    refine .behind (.forM fun row => ?_) (.pure _)
    show ResultsIn (reportEndpoints row.1 row.2) (.ok ())
    unfold reportEndpoints
    split
    · exact .pure ()
    · exact .report _
  -- Leaving out a nested source before it is read or instead of that makes no difference.
  have hclasses (files : List Path) :
      classesIn t (files.filter fun file => !isNested projects project file) =
        List.flatten <$> (files.mapM fun file =>
          if isNested projects project file then .ok []
          else (classesOf · file) <$> Source.read t file) :=
    (flatten_mapM_filter (fun file => (classesOf · file) <$> Source.read t file) files).symm
  have hwhole : routesOfProject t root projects project =
      (do
        let w ← Source.walk t project sourceFiles
        let classes ← w.files.mapM fun file =>
          if isNested projects project file then .ok []
          else (classesOf · file) <$> Source.read t file
        w.finish
        pure classes) >>= fun classes =>
          routesOfControllers t root (findControllers classes.flatten) := by
    unfold routesOfProject
    simp only [bind_assoc, pure_bind, hclasses, bind_map_left]
  rw [hwhole]
  unfold scanProject
  refine .behind (.report _) (.bind (.forEach hfile) fun classes => ?_)
  exact .behind (.report _) (hroutes _)

/-- What a project contributes: its routes, or nothing if it is at fault itself. A project that has
no name in the repository ends the scan. -/
def contribution (t : FileTree) (root : Path) (projects : List Path) (project : Path) :
    Except DiscoveryFault (List Discovered) := do
  let _ ← projectName t root project
  match routesOfProject t root projects project with
  | .ok routes => .ok routes
  | .error fault => if fault.isPartial then .ok [] else .error fault

/-- With what is recovered from, the scan of a project results in what the project contributes. -/
theorem resultsIn_scanProjectOrSkip (t : FileTree) (root : Path) (projects : List Path)
    (project : Path) :
    ResultsIn (scanProjectOrSkip t root projects project)
      (contribution t root projects project) := by
  unfold scanProjectOrSkip contribution
  refine .behind .check (.bind (.ofExcept _) fun name => ?_)
  have hattempt := (resultsIn_scanProject t root projects project).attempt
  cases hroutes : routesOfProject t root projects project with
  | ok routes =>
    rw [hroutes] at hattempt
    exact .behind hattempt (.pure routes)
  | error fault =>
    rw [hroutes, Scan.attempted] at hattempt
    dsimp only at hattempt ⊢
    split at hattempt
    next hpartial =>
      rw [if_pos hpartial]
      exact .behind hattempt (.behind (.report _) (.pure []))
    next hpartial =>
      rw [if_neg hpartial]
      exact .ended hattempt

/-- The projects are the directories of project files. -/
theorem mem_projectsOf {files : List Path} :
    project ∈ projectsOf files ↔ ∃ file ∈ files, file.parent = project := by
  rw [projectsOf, mem_eraseReps, (List.mergeSort_perm _ _).mem_iff, List.mem_map]

/-- What the scan of a repository results in: what its projects contribute, one after the other. -/
theorem resultsIn_discover {files : List Path}
    (hfiles : Source.files t root projectFiles = .ok files) :
    ResultsIn (discover t root)
      (List.flatten <$> (projectsOf files).mapM (contribution t root (projectsOf files))) := by
  unfold discover
  refine .behind (.report _) ?_
  rw [hfiles]
  refine .behind (.ofExcept _) ?_
  split
  next hempty =>
    obtain rfl := List.isEmpty_iff.mp hempty
    have hnone : projectsOf [] = [] := List.eq_nil_iff_forall_not_mem.mpr fun project hproject => by
      obtain ⟨file, hfile, -⟩ := mem_projectsOf.mp hproject
      cases hfile
    rw [hnone]
    exact .behind (.report _) (.pure [])
  next =>
    refine .bind (.mapM fun project => resultsIn_scanProjectOrSkip t root _ project) fun found => ?_
    exact .behind (.report _) (.pure found.flatten)

/-- Without the project files there is nothing to scan. -/
theorem resultsIn_discover_of_error {fault : DiscoveryFault}
    (hfiles : Source.files t root projectFiles = .error fault) :
    ResultsIn (discover t root) (.error fault) := by
  unfold discover
  refine .behind (.report _) ?_
  rw [hfiles]
  exact .ended (.ofExcept _)

/-! ## The projects of a repository -/

/-- A walk from the root of the repository comes to a project file in this directory. -/
def IsProject (t : FileTree) (root project : Path) : Prop :=
  ∃ file, Source.IsBelow t projectFiles root file ∧ file.parent = project

/-- A walk from the root enters each project. -/
theorem IsProject.enters (h : IsProject t root project) :
    Source.Enters t projectFiles.ignored root project := by
  obtain ⟨file, hbelow, rfl⟩ := h
  obtain ⟨directory, name, hentered, rfl⟩ := hbelow.entered
  have hparent : (directory.child name).parent = directory := by
    simp [Path.child, Path.parent]
  rw [hparent]
  exact hentered

/-- A walk goes through from a project where it goes through from the root. -/
theorem IsProject.isWalkable (h : IsProject t root project) (hroot : t.IsWalkable root) :
    t.IsWalkable project :=
  h.enters.isWalkable hroot

theorem IsProject.root_eq (h : IsProject t root project) : project.root = root.root := by
  obtain ⟨names, rfl, -⟩ := h.enters.exists_names
  rfl

/-- The projects stand in order, none of them twice. -/
theorem pairwise_projectsOf {files : List Path} {start : PathRoot}
    (h : ∀ file ∈ files, file.root = start) : (projectsOf files).Pairwise Path.IsBefore := by
  have hsorted : ((files.map Path.parent).mergeSort Path.le).Pairwise fun a b =>
      a.root = b.root ∧ a.names ≤ b.names := by
    have hle := List.pairwise_mergeSort Path.le_sortsBy.trans Path.le_sortsBy.total
      (files.map Path.parent)
    have hstart : ∀ path ∈ (files.map Path.parent).mergeSort Path.le, path.root = start := by
      intro path hpath
      rw [(List.mergeSort_perm _ _).mem_iff, List.mem_map] at hpath
      obtain ⟨file, hfile, rfl⟩ := hpath
      exact h file hfile
    refine hle.imp_of_mem fun ha hb hab => ?_
    exact ⟨(hstart _ ha).trans (hstart _ hb).symm, (Path.le_sortsBy _ _).mp hab⟩
  have hantisymm (a b : Path) (hab : a.root = b.root ∧ a.names ≤ b.names)
      (hba : b.root = a.root ∧ b.names ≤ a.names) : a = b := by
    obtain ⟨aroot, anames⟩ := a
    obtain ⟨broot, bnames⟩ := b
    obtain rfl : aroot = broot := hab.1
    obtain rfl : anames = bnames := le_antisymm hab.2 hba.2
    rfl
  refine (pairwise_eraseReps hantisymm hsorted).imp fun {a b} hab => ⟨hab.1.1, ?_⟩
  refine lt_of_le_of_ne hab.1.2 fun heq => hab.2 (hantisymm a b hab.1 ⟨hab.1.1.symm, heq.ge⟩)

/-- The projects that a scan goes through are those of the repository, in order. -/
theorem exists_projects (h : t.IsWalkable root) :
    ∃ files, Source.files t root projectFiles = .ok files ∧
      (projectsOf files).Pairwise Path.IsBefore ∧
      ∀ project, project ∈ projectsOf files ↔ IsProject t root project := by
  obtain ⟨files, hfiles, -, hmem⟩ := Source.exists_files projectFiles h rfl
  have hroot : ∀ file ∈ files, file.root = root.root := by
    intro file hfile
    obtain ⟨names, -, rfl⟩ := ((hmem file).mp hfile).exists_names
    rfl
  refine ⟨files, hfiles, pairwise_projectsOf hroot, fun project => ?_⟩
  rw [mem_projectsOf, IsProject]
  exact exists_congr fun file => and_congr_left fun _ => hmem file

/-! ## Nearest projects -/

/-- No project above a file is nearer to it than this one. -/
structure IsNearest (t : FileTree) (root owner file : Path) : Prop where
  isProject : IsProject t root owner
  above : owner.isAncestor file = true
  nearest : ∀ other, IsProject t root other → other.isAncestor file = true →
    other = owner ∨ other.isAncestor owner = true

/-- Of the paths above a file, one lies below all others. -/
theorem exists_nearest {paths : List Path} {path file : Path} (hpath : path ∈ paths)
    (habove : path.isAncestor file = true) :
    ∃ owner ∈ paths, owner.isAncestor file = true ∧
      ∀ other ∈ paths, other.isAncestor file = true →
        other = owner ∨ other.isAncestor owner = true := by
  have hne : (paths.filter (·.isAncestor file)).toFinset.Nonempty :=
    ⟨path, by simp [hpath, habove]⟩
  obtain ⟨owner, howner, hlongest⟩ := Finset.exists_max_image _ (·.names.length) hne
  rw [List.mem_toFinset, List.mem_filter] at howner
  refine ⟨owner, howner.1, howner.2, fun other hother hfile => ?_⟩
  have hlength := hlongest other (by simp [hother, hfile])
  rw [Path.isAncestor_iff] at howner hfile
  obtain ⟨-, hroot, hbegins, -⟩ := howner
  -- Both lie on the way to the file, so the shorter one lies on the way to the longer one.
  have hway := List.prefix_of_prefix_length_le hfile.2.1 hbegins hlength
  by_cases heq : other.names.length = owner.names.length
  · left
    obtain ⟨otherRoot, otherNames⟩ := other
    obtain ⟨ownerRoot, ownerNames⟩ := owner
    obtain rfl : otherRoot = ownerRoot := hfile.1.trans hroot.symm
    obtain rfl : otherNames = ownerNames := hway.eq_of_length heq
    rfl
  · right
    rw [Path.isAncestor_iff]
    exact ⟨hfile.1.trans hroot.symm, hway, by omega⟩

/-- What belongs to a project further down is what this project is not the nearest one of. -/
theorem isNested_iff {owner file : Path} (howner : IsNearest t root owner file)
    (hprojects : ∀ project, project ∈ projects ↔ IsProject t root project)
    (hproject : IsProject t root project) (habove : project.isAncestor file = true) :
    isNested projects project file = true ↔ project ≠ owner := by
  rw [isNested, List.any_eq_true]
  constructor
  · rintro ⟨other, hother, hbetween⟩ rfl
    rw [Bool.and_eq_true] at hbetween
    -- A project in between would have to be the nearest one or lie above it.
    rcases howner.nearest other ((hprojects other).mp hother) hbetween.2 with rfl | hback
    · have hself := (Path.isAncestor_iff.mp hbetween.1).2.2
      exact lt_irrefl _ hself
    · have hdown := (Path.isAncestor_iff.mp hbetween.1).2.2
      have hup := (Path.isAncestor_iff.mp hback).2.2
      omega
  · intro hne
    refine ⟨owner, (hprojects owner).mpr howner.isProject, ?_⟩
    rw [Bool.and_eq_true]
    exact ⟨(howner.nearest project hproject habove).resolve_left hne, howner.above⟩

/-- A file has one nearest project. -/
theorem IsNearest.unique {owner other file : Path} (h : IsNearest t root owner file)
    (h' : IsNearest t root other file) : owner = other := by
  rcases h.nearest other h'.isProject h'.above with rfl | hup
  · rfl
  · rcases h'.nearest owner h.isProject h.above with rfl | hdown
    · rfl
    · have hone := (Path.isAncestor_iff.mp hup).2.2
      have hother := (Path.isAncestor_iff.mp hdown).2.2
      omega

/-- A file below a project has a nearest project, which it is below, too. -/
theorem exists_isNearest {file : Path} (hproject : IsProject t root project)
    (hprojects : ∀ project, project ∈ projects ↔ IsProject t root project)
    (hbelow : Source.IsBelow t sourceFiles project file) :
    ∃ owner, IsNearest t root owner file ∧ Source.IsBelow t sourceFiles owner file := by
  obtain ⟨owner, howner, habove, hnearest⟩ :=
    exists_nearest ((hprojects project).mpr hproject) hbelow.isAncestor
  have howner : IsNearest t root owner file :=
    ⟨(hprojects owner).mp howner, habove, fun other hother =>
      hnearest other ((hprojects other).mpr hother)⟩
  refine ⟨owner, howner, ?_⟩
  rcases howner.nearest project hproject hbelow.isAncestor with rfl | hbetween
  · exact hbelow
  · rw [Path.isAncestor_iff] at hbetween
    exact hbelow.of_between hbetween.1 hbetween.2.1 habove

/-- A project is left with the sources that it is the nearest project of. -/
theorem exists_ownFiles (h : t.IsWalkable root) (hproject : IsProject t root project)
    (hprojects : ∀ project, project ∈ projects ↔ IsProject t root project) :
    ∃ own, ownFiles t projects project = .ok own ∧ own.Pairwise Path.IsBefore ∧
      ∀ file, file ∈ own ↔
        IsNearest t root project file ∧ Source.IsBelow t sourceFiles project file := by
  obtain ⟨sources, hsources, hordered, hmem⟩ :=
    Source.exists_files sourceFiles (hproject.isWalkable h) rfl
  refine ⟨sources.filter fun file => !isNested projects project file, ?_,
    hordered.sublist List.filter_sublist, fun file => ?_⟩
  · rw [ownFiles, hsources]
    rfl
  rw [List.mem_filter, hmem, Bool.not_eq_true', ← Bool.not_eq_true]
  constructor
  · rintro ⟨hbelow, hnot⟩
    obtain ⟨owner, howner, -⟩ := exists_isNearest hproject hprojects hbelow
    rw [isNested_iff howner hprojects hproject hbelow.isAncestor, not_not] at hnot
    subst hnot
    exact ⟨howner, hbelow⟩
  · rintro ⟨hnearest, hbelow⟩
    rw [isNested_iff hnearest hprojects hproject hbelow.isAncestor]
    exact ⟨hbelow, fun hne => hne rfl⟩

/-- **Every source is scanned once, by the nearest project above it.** In a file tree, a discovery
from a directory at its own path looks up whatever the walk for project files meets. If something
cannot be looked up, the discovery ends with that. If everything can, the scan goes through each
project once, and what it results in is what comes of the projects' own sources; and a source that a
walk from any project comes to is found once among those of the nearest project above it, and not at
all among those of the other projects. -/
theorem scanned_by_nearest (hrooted : t.IsRooted) (hnames : t.HasFileNames)
    (hroot : t.status root = .ok (root.names, .directory)) :
    (∃ names fault, Source.Meets t Source.ignoredDirectories root.names names ∧
      t.status? (root.below names) = .error fault ∧
      Source.files t root projectFiles = .error (.unlookable fault) ∧
      ResultsIn (discover t root) (.error (.unlookable fault))) ∨
    (∀ names, Source.Meets t Source.ignoredDirectories root.names names →
      ∃ found, t.status? (root.below names) = .ok found) ∧
    ∃ files, Source.files t root projectFiles = .ok files ∧ (projectsOf files).Nodup ∧
      (∀ project, project ∈ projectsOf files ↔ IsProject t root project) ∧
      ResultsIn (discover t root)
        (List.flatten <$> (projectsOf files).mapM (contribution t root (projectsOf files))) ∧
      ∀ project file, IsProject t root project → Source.IsBelow t sourceFiles project file →
        ∃ owner, IsNearest t root owner file ∧ ∀ other, IsProject t root other →
          ∃ own, ownFiles t (projectsOf files) other = .ok own ∧
            own.count file = if other = owner then 1 else 0 := by
  rcases Source.isWalkable_or_files_eq_error projectFiles hrooted hnames hroot rfl with
    h | ⟨names, fault, hmeets, hstatus, hfiles⟩
  · obtain ⟨files, hfiles, hordered, hprojects⟩ := exists_projects h
    refine .inr ⟨h.looked, files, hfiles, hordered.imp Path.IsBefore.ne, hprojects,
      resultsIn_discover hfiles, ?_⟩
    intro project file hproject hbelow
    obtain ⟨owner, howner, hcomes⟩ := exists_isNearest hproject hprojects hbelow
    refine ⟨owner, howner, fun other hother => ?_⟩
    obtain ⟨own, hown, hordered, hmem⟩ := exists_ownFiles h hother hprojects
    refine ⟨own, hown, ?_⟩
    -- It is one of the sources of the project that is nearest, and each of those is listed once.
    by_cases hsame : other = owner
    · rw [if_pos hsame]
      subst hsame
      exact List.count_eq_one_of_mem (hordered.imp Path.IsBefore.ne)
        ((hmem file).mpr ⟨howner, hcomes⟩)
    · rw [if_neg hsame]
      refine List.count_eq_zero_of_not_mem fun hin => hsame ?_
      exact ((hmem file).mp hin).1.unique howner
  · exact .inl ⟨names, fault, hmeets, hstatus, hfiles, resultsIn_discover_of_error hfiles⟩

/-- A tree with a project within a project, each with a source. -/
def nestedTree : FileTree where
  entries :=
    [(["a.csproj".toList], .file [] 0o644), (["a.cs".toList], .file [] 0o644),
      (["sub".toList], .directory), (["sub".toList, "b.csproj".toList], .file [] 0o644),
      (["sub".toList, "b.cs".toList], .file [] 0o644)]
  distinct := by decide

/-- There, the source of the inner project is found among its own sources, and not among those of
the outer one. -/
theorem scanned_by_nearest_nested :
    nestedTree.IsRooted ∧ nestedTree.HasFileNames ∧
      nestedTree.status ⟨.slash, []⟩ = .ok ([], .directory) ∧
      ∃ files inner outer, Source.files nestedTree ⟨.slash, []⟩ projectFiles = .ok files ∧
        ownFiles nestedTree (projectsOf files) ⟨.slash, ["sub".toList]⟩ = .ok inner ∧
        ownFiles nestedTree (projectsOf files) ⟨.slash, []⟩ = .ok outer ∧
        inner.count ⟨.slash, ["sub".toList, "b.cs".toList]⟩ = 1 ∧
        outer.count ⟨.slash, ["sub".toList, "b.cs".toList]⟩ = 0 := by
  have hrooted : nestedTree.IsRooted := FileTree.isRooted_of_entries (by decide)
  have hnames : nestedTree.HasFileNames := FileTree.hasFileNames_of_entries (by decide +kernel)
  have hroot : nestedTree.status ⟨.slash, []⟩ = .ok ([], .directory) := by cbv
  have houter : IsProject nestedTree ⟨.slash, []⟩ ⟨.slash, []⟩ :=
    ⟨⟨.slash, ["a.csproj".toList]⟩,
      ⟨⟨_, "a.csproj".toList, .top, rfl⟩, by decide, _, rfl, by decide, fun h => by cases h⟩, rfl⟩
  have henters : Source.Enters nestedTree projectFiles.ignored ⟨.slash, []⟩
      ⟨.slash, ["sub".toList]⟩ :=
    .child .top (by decide) rfl
  have hinner : IsProject nestedTree ⟨.slash, []⟩ ⟨.slash, ["sub".toList]⟩ :=
    ⟨⟨.slash, ["sub".toList, "b.csproj".toList]⟩,
      ⟨⟨_, "b.csproj".toList, henters, rfl⟩, by decide, _, rfl, by decide, fun h => by cases h⟩, rfl⟩
  -- The walk from the outer project comes to the source as well.
  have hsource : Source.IsBelow nestedTree sourceFiles ⟨.slash, []⟩
      ⟨.slash, ["sub".toList, "b.cs".toList]⟩ :=
    ⟨⟨_, "b.cs".toList, henters, rfl⟩, by decide, _, rfl, by decide, fun h => by cases h⟩
  have hfound : (Source.files nestedTree ⟨.slash, []⟩ projectFiles).isOk = true := by cbv
  rcases scanned_by_nearest hrooted hnames hroot with
    ⟨_, _, -, -, hfiles, -⟩ | ⟨-, files, hfiles, -, -, -, hscanned⟩
  · rw [hfiles] at hfound
    cases hfound
  obtain ⟨owner, howner, hcount⟩ := hscanned _ _ houter hsource
  have hnearest : ⟨.slash, ["sub".toList]⟩ = owner := by
    rcases howner.nearest _ hinner (by decide) with hsame | habove
    · exact hsame
    · -- There is no room between the inner project and its source.
      have hup := (Path.isAncestor_iff.mp habove).2.2
      have hdown := (Path.isAncestor_iff.mp howner.above).2.2
      simp only [List.length_cons, List.length_nil] at hup hdown
      omega
  subst hnearest
  obtain ⟨inner, hinnerFiles, hinnerCount⟩ := hcount _ hinner
  obtain ⟨outer, houterFiles, houterCount⟩ := hcount _ houter
  rw [if_pos rfl] at hinnerCount
  rw [if_neg (by decide)] at houterCount
  exact ⟨hrooted, hnames, hroot, files, inner, outer, hfiles, hinnerFiles, houterFiles, hinnerCount,
    houterCount⟩

/-- A tree with a project, a source in it, and a link to a name that is too long. -/
def hiddenSourceTree : FileTree where
  entries := [(["a".toList], .link (List.replicate 256 'x')),
    (["b.csproj".toList], .file [] 0o644), (["c.cs".toList], .file [] 0o644)]
  distinct := by decide

-- The name that is too long is taken apart character by character.
set_option maxRecDepth 4096 in
/-- **A link can keep all sources from being scanned.** There is a project, and a source that a walk
from there comes to, but the discovery ends at the link before it goes through any project. -/
theorem scanned_by_none_behind_link :
    IsProject hiddenSourceTree ⟨.slash, []⟩ ⟨.slash, []⟩ ∧
      Source.IsBelow hiddenSourceTree sourceFiles ⟨.slash, []⟩ ⟨.slash, ["c.cs".toList]⟩ ∧
      IsNearest hiddenSourceTree ⟨.slash, []⟩ ⟨.slash, []⟩ ⟨.slash, ["c.cs".toList]⟩ ∧
      (discover hiddenSourceTree ⟨.slash, []⟩).resume none [] =
        (.error (.unlookable { reason := .nameTooLong, path := ⟨.slash, ["a".toList]⟩ }),
          ["Discovering ASP.NET routes...".toList]) := by
  have hproject : IsProject hiddenSourceTree ⟨.slash, []⟩ ⟨.slash, []⟩ :=
    ⟨⟨.slash, ["b.csproj".toList]⟩,
      ⟨⟨_, "b.csproj".toList, .top, rfl⟩, by decide, _, rfl, by decide, fun h => by cases h⟩, rfl⟩
  have hfiles : Source.files hiddenSourceTree ⟨.slash, []⟩ projectFiles =
      .error (.unlookable { reason := .nameTooLong, path := ⟨.slash, ["a".toList]⟩ }) := by cbv
  refine ⟨hproject,
    ⟨⟨_, "c.cs".toList, .top, rfl⟩, by decide, _, rfl, by decide, fun h => by cases h⟩,
    ⟨hproject, by decide, fun other _ habove => .inl ?_⟩, ?_⟩
  · -- Above a file in the root there is nothing but the root.
    obtain ⟨hslash, -, hlength⟩ := Path.isAncestor_iff.mp habove
    obtain ⟨start, names⟩ := other
    obtain rfl : start = .slash := hslash
    obtain rfl : names = [] := List.length_eq_zero_iff.mp (Nat.lt_one_iff.mp hlength)
    rfl
  · unfold discover
    rw [Scan.resume_bind, Scan.resume_report]
    dsimp only
    rw [Scan.resume_bind, Scan.resume_ofExcept, hfiles]
    rfl

end Controllers

end RouteAtlas
