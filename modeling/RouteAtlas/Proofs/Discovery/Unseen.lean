import RouteAtlas.Proofs.Discovery.Isolation
import RouteAtlas.Proofs.Discovery.Skipped

/-!
# What a discovery does not see

A walk enters no directory with an ignored name, and of all that is no directory it looks only for
certain endings. Two trees that differ nowhere else (`DifferUnseen`) are walked in the same way
(`SameBelow.enters_iff`). A source that is no link stands at a place that leads to itself, so it is
found in both or in neither; one that is a link may lead to where the trees differ. If no link does
(`LinksAgree`), the source files are the same (`SameBelow.files_eq`), and so is the index that is
discovered (`Backend.discover_of_sameBelow`).

A walk also looks up what it does not look for, and breaks off where that cannot be done. So a walk
has to go through in both trees. In a tree where a discovery succeeded, it has
(`Backend.isWalkable_of_discover`).

What is the same in both trees is not what stands at a place but what a source comes to: where its
path leads, whether it has a canonical form, and what it is called in the repository (`LeadsAlike`).
A link may lead nowhere at all, in both trees alike, and is passed over then or ends the discovery
in both.
-/

namespace RouteAtlas

namespace FileTree

variable {t u : FileTree} {place : Place} {entry : Entry}

/-- What stands at a place that leads to itself is all that its path depends on. -/
theorem status_congr_of_isDirect (ht : t.IsRooted) (hu : u.IsRooted) (hdirect : t.IsDirect place)
    (hdirect' : u.IsDirect place) (hget : t.get? place = some entry)
    (hget' : u.get? place = some entry) : u.status ⟨.slash, place⟩ = t.status ⟨.slash, place⟩ := by
  by_cases hlookable : IsLookable ⟨.slash, place⟩
  · rw [hdirect.status_eq ht hget hlookable, hdirect'.status_eq hu hget' hlookable]
  · unfold status
    rw [locate_of_not_isLookable hlookable u t]

/-- A path leads to the same in two trees, if to anything, and it does not run in circles in only
one of them. -/
def LeadsAlike (t u : FileTree) (path : Path) : Prop :=
  (t.status path).toOption = (u.status path).toOption ∧
    (t.canonical path).isOk = (u.canonical path).isOk

end FileTree

namespace Source

open FileTree (LeadsAlike)

variable {t u : FileTree} {root directory path : Path} {endings : List Text} {name : Text}
  {entry : Entry}

/-- Below a directory, two trees differ only where a walk does not look: at and below ignored names,
and at what is no directory and has none of the endings. -/
def DifferUnseen (t u : FileTree) (root : Path) (endings : List Text) : Prop :=
  ∀ names, u.get? (root.names ++ names) = t.get? (root.names ++ names) ∨
    (∃ name ∈ names, name ∈ ignoredDirectories) ∨
    t.get? (root.names ++ names) ≠ some .directory ∧
      u.get? (root.names ++ names) ≠ some .directory ∧
      Path.suffixOf (names.getLastD []) ∉ endings

/-- No link with one of the endings that a walk comes to leads to something else in one of two trees
than in the other. -/
def LinksAgree (t u : FileTree) (root : Path) (endings : List Text) : Prop :=
  ∀ directory name target, Enters t ignoredDirectories root directory →
    Path.suffixOf name ∈ endings → t.get? (directory.names ++ [name]) = some (.link target) →
    LeadsAlike t u (directory.child name)

/-- Two trees with the same sources below a directory, where a walk goes through in both. -/
structure SameBelow (t u : FileTree) (root : Path) (endings : List Text) : Prop where
  walkable : t.IsWalkable root
  walkable' : u.IsWalkable root
  slash : root.root = .slash
  /-- An ending begins with a dot. -/
  ending : [] ∉ endings
  differ : DifferUnseen t u root endings
  links : LinksAgree t u root endings

/-- No ignored name has an ending. -/
theorem suffixOf_of_mem_ignored (h : name ∈ ignoredDirectories) : Path.suffixOf name = [] := by
  revert name
  decide

theorem DifferUnseen.symm (h : DifferUnseen t u root endings) : DifferUnseen u t root endings := by
  intro names
  rcases h names with hsame | hignored | ⟨hdirectory, hdirectory', hending⟩
  · exact .inl hsame.symm
  · exact .inr (.inl hignored)
  · exact .inr (.inr ⟨hdirectory', hdirectory, hending⟩)

/-- A walk goes the same way. -/
theorem DifferUnseen.enters (h : DifferUnseen t u root endings)
    (henters : Enters t ignoredDirectories root directory) :
    Enters u ignoredDirectories root directory := by
  -- The induction is on the way of the walk, which has no ignored name on it.
  induction henters with
  | top => exact .top
  | @child directory name hentered hignored hentry ih =>
    refine .child ih hignored ?_
    obtain ⟨names, rfl, hall⟩ := hentered.exists_names
    dsimp only at hentry ⊢
    rw [List.append_assoc] at hentry ⊢
    rcases h (names ++ [name]) with hsame | ⟨other, hother, hbad⟩ | ⟨hno, -⟩
    · rw [hsame, hentry]
    · rcases List.mem_append.mp hother with hfront | hlast
      · exact absurd hbad (hall other hfront)
      · rw [List.mem_singleton.mp hlast] at hbad
        exact absurd hbad hignored
    · exact absurd hentry hno

/-- A directory may be entered in two parts. -/
theorem Enters.append {ignored : List Text} {top middle : Path} (h : Enters t ignored top middle)
    (hnext : Enters t ignored middle directory) : Enters t ignored top directory := by
  induction hnext with
  | top => exact h
  | child _ hignored hentry ih => exact .child ih hignored hentry

namespace SameBelow

variable (h : SameBelow t u root endings)

include h

/-- **The same directories are entered** in both trees. -/
theorem enters_iff : Enters u ignoredDirectories root directory ↔
    Enters t ignoredDirectories root directory :=
  ⟨h.differ.symm.enters, h.differ.enters⟩

/-- The sources are the same below every directory that is entered. -/
theorem of_enters (hentered : Enters t ignoredDirectories root directory) :
    SameBelow t u directory endings where
  walkable := hentered.isWalkable h.walkable
  walkable' := (h.enters_iff.mpr hentered).isWalkable h.walkable'
  slash := by
    obtain ⟨names, rfl, -⟩ := hentered.exists_names
    exact h.slash
  ending := h.ending
  differ := by
    have hget := hentered.get? h.walkable.get?_names
    have hget' := (h.enters_iff.mpr hentered).get? h.walkable'.get?_names
    obtain ⟨entered, rfl, hall⟩ := hentered.exists_names
    intro names
    dsimp only at hget hget' ⊢
    -- What stands below the directory stands below the root, under more names.
    by_cases hnames : names = []
    · rw [hnames, List.append_nil, hget, hget']
      exact .inl rfl
    · have hlast : (entered ++ names).getLastD [] = names.getLastD [] := by
        rw [List.getLastD_eq_getLast?, List.getLastD_eq_getLast?,
          List.getLast?_append_of_ne_nil _ hnames]
      rw [List.append_assoc, ← hlast]
      rcases h.differ (entered ++ names) with hsame | ⟨name, hname, hbad⟩ | hother
      · exact .inl hsame
      · rcases List.mem_append.mp hname with hfront | hback
        · exact absurd hbad (hall name hfront)
        · exact .inr (.inl ⟨name, hback, hbad⟩)
      · exact .inr (.inr hother)
  links deeper name target hdeeper := h.links deeper name target (hentered.append hdeeper)

theorem eq_slash : root = ⟨.slash, root.names⟩ := by
  rw [← h.slash]

theorem canonical_eq : t.canonical root = .ok root ∧ u.canonical root = .ok root := by
  have hcanonical := FileTree.canonical_of_status h.walkable.status_eq
  have hcanonical' := FileTree.canonical_of_status h.walkable'.status_eq
  rw [← h.eq_slash] at hcanonical hcanonical'
  exact ⟨hcanonical, hcanonical'⟩

section Child

variable (hending : Path.suffixOf name ∈ endings)

include hending

/-- Where a source may stand, the same stands in both trees. -/
theorem get?_eq : u.get? (root.names ++ [name]) = t.get? (root.names ++ [name]) := by
  rcases h.differ [name] with hsame | ⟨other, hother, hbad⟩ | ⟨-, -, hnot⟩
  · exact hsame
  · rw [List.mem_singleton.mp hother] at hbad
    rw [suffixOf_of_mem_ignored hbad] at hending
    exact absurd hending h.ending
  · exact absurd hending hnot

/-- A source leads to the same. -/
theorem leadsAlike (hget : t.get? (root.names ++ [name]) = some entry) :
    LeadsAlike t u (root.child name) := by
  have hget' := (h.get?_eq hending).trans hget
  by_cases hlink : ∃ target, entry = .link target
  · obtain ⟨target, rfl⟩ := hlink
    exact h.links root name target .top hending hget
  · -- What is no link stands at a place that leads to itself.
    have hno (target : Text) : entry ≠ .link target := fun heq => hlink ⟨target, heq⟩
    have hplain := h.walkable.names.plain _ _ hget
    have hdirect := h.walkable.rooted.isDirect hplain hget hno
    have hdirect' := h.walkable'.rooted.isDirect hplain hget' hno
    rw [Path.child, h.slash, LeadsAlike, hdirect.canonical_eq, hdirect'.canonical_eq,
      FileTree.status_congr_of_isDirect h.walkable.rooted h.walkable'.rooted hdirect hdirect' hget
        hget']
    exact ⟨rfl, rfl⟩

end Child

/-- Neither of the two trees comes first. -/
theorem symm : SameBelow u t root endings where
  walkable := h.walkable'
  walkable' := h.walkable
  slash := h.slash
  ending := h.ending
  differ := h.differ.symm
  links directory name target hentered hending hget := by
    have hdirectory := h.of_enters (h.enters_iff.mp hentered)
    rw [hdirectory.get?_eq hending] at hget
    obtain ⟨hstatus, hcanonical⟩ := hdirectory.leadsAlike hending hget
    exact ⟨hstatus.symm, hcanonical.symm⟩

section Wanted

variable {wanted : Wanted} (hignored : wanted.ignored = ignoredDirectories)
  (hsuffixes : ∀ ending ∈ wanted.suffixes, ending ∈ endings)

include hignored hsuffixes

/-- What a walk comes to, leads to the same. -/
theorem leadsAlike_of_isBelow (hbelow : IsBelow t wanted root path) :
    u.get? path.names = t.get? path.names ∧ LeadsAlike t u path := by
  obtain ⟨⟨directory, name, hentered, rfl⟩, hending, entry, hget, -⟩ := hbelow
  rw [hignored] at hentered
  rw [Path.suffix, Path.name, Path.child, List.getLastD_concat] at hending
  have hdirectory := h.of_enters hentered
  exact ⟨hdirectory.get?_eq (hsuffixes _ hending),
    hdirectory.leadsAlike (hsuffixes _ hending) hget⟩

/-- A walk comes to the same sources. -/
theorem isBelow_of_isBelow (hbelow : IsBelow t wanted root path) : IsBelow u wanted root path := by
  obtain ⟨hsame, hleads, -⟩ := h.leadsAlike_of_isBelow hignored hsuffixes hbelow
  obtain ⟨⟨directory, name, hentered, hpath⟩, hending, entry, hget, hkind, hlink⟩ := hbelow
  refine ⟨⟨directory, name, ?_, hpath⟩, hending, entry, hsame.trans hget, hkind, fun hislink => ?_⟩
  · rw [hignored] at hentered ⊢
    exact h.enters_iff.mpr hentered
  · rw [← FileTree.isDirectory_congr hleads]
    exact hlink hislink

/-- A walk comes to the same sources. -/
theorem isBelow_iff : IsBelow u wanted root path ↔ IsBelow t wanted root path :=
  ⟨h.symm.isBelow_of_isBelow hignored hsuffixes, h.isBelow_of_isBelow hignored hsuffixes⟩

/-- **The source files are the same.** -/
theorem files_eq : files u root wanted = files t root wanted := by
  obtain ⟨paths, hpaths, hordered, hmem⟩ := exists_files wanted h.walkable hignored
  obtain ⟨paths', hpaths', hordered', hmem'⟩ := exists_files wanted h.walkable' hignored
  have hsame : paths' = paths := by
    refine Path.eq_of_pairwise_isBefore hordered' hordered fun path => ?_
    rw [hmem, hmem', h.isBelow_iff hignored hsuffixes]
  rw [hpaths, hpaths', hsame]

end Wanted

end SameBelow

/-! ## Sources that lead to the same -/

/-- What a source is called in its repository, if it leads somewhere, depends on that alone; and if
it leads nowhere, it can be told in both trees or in neither. -/
theorem relative_of_leadsAlike (h : LeadsAlike t u path) (root : Path) :
    (∀ found, t.status path = .ok found → relative u root path = relative t root path) ∧
      (relative u root path).isOk = (relative t root path).isOk := by
  obtain ⟨hstatus, hcanonical⟩ := h
  constructor
  · intro found hfound
    rw [relative_of_status hfound,
      relative_of_status (Except.eq_ok_of_toOption_eq hstatus hfound)]
  · unfold relative FileTree.seenFrom
    -- A source that is called from the root needs a canonical form.
    split
    · cases ht : t.canonical path with
      | error loop =>
        cases hu : u.canonical path with
        | error loop' => rfl
        | ok form =>
          rw [ht, hu] at hcanonical
          cases hcanonical
      | ok form =>
        cases hu : u.canonical path with
        | error loop' =>
          rw [ht, hu] at hcanonical
          cases hcanonical
        | ok form' => rfl
    · rfl

end Source

/-! ## Scripts -/

namespace Routers

open Scan (ResultsIn)

variable {t u : FileTree} {root path : Path} {files : List Path} {routes : List Discovered}

/-- The routes of a script, if it can be visited. -/
def visitedRoutes (t : FileTree) (root path : Path) : Except DiscoveryFault (List Discovered) :=
  Visited.routes <$> visit (fun _ => none) t root path

/-- The routes of the scripts that a walk comes to, if it goes through. -/
def routesOfScripts (t : FileTree) (root : Path) : Except DiscoveryFault (List (List Discovered)) :=
  do
    let w ← Source.walk t root scripts
    let found ← w.files.mapM (visitedRoutes t root)
    w.finish
    pure found

/-- The routes of all scripts are those of each of them, if a walk goes through. -/
theorem routesOfScripts_eq_ok_iff {found : List (List Discovered)} :
    routesOfScripts t root = .ok found ↔
      ∃ files, Source.files t root scripts = .ok files ∧
        files.mapM (visitedRoutes t root) = .ok found := by
  constructor
  · intro h
    obtain ⟨w, hwalk, h⟩ := Except.bind_eq_ok.mp h
    obtain ⟨found, hfound, h⟩ := Except.bind_eq_ok.mp h
    obtain ⟨⟨⟩, hfinish, h⟩ := Except.bind_eq_ok.mp h
    cases h
    refine ⟨w.files, ?_, hfound⟩
    rw [Source.files, hwalk]
    show (w.finish >>= _) = _
    rw [hfinish]
    rfl
  · rintro ⟨files, hfiles, hfound⟩
    rw [Source.files_eq_ok_iff] at hfiles
    rw [routesOfScripts, hfiles]
    show (files.mapM (visitedRoutes t root) >>= _) = _
    rw [hfound]
    rfl

/-- What the scan of a repository results in: the routes of its scripts, if all can be visited. -/
theorem resultsIn_discover (t : FileTree) (root : Path) :
    ResultsIn (discover t root) (routesOfScripts t root >>= fun found =>
      .ok (found.flatten.filter (·.kind == .controller) ++
        found.flatten.filter (·.kind == .endpoint))) := by
  have hfile (path : Path) : ResultsIn (scanFile t root path) (visitedRoutes t root path) := by
    intro reported
    rw [Scan.resume, resumeIn_scanFile, visitedRoutes]
    cases visit (fun _ => none) t root path <;> rfl
  unfold discover
  refine .behind (.report _) (.bind (.forEach hfile) fun found => ?_)
  exact .behind (.report _) (.pure _)

/-- A script that leads to the same has the same routes. -/
theorem visitedRoutes_of_leadsAlike (h : FileTree.LeadsAlike t u path)
    (hroutes : visitedRoutes t root path = .ok routes) :
    visitedRoutes u root path = .ok routes := by
  obtain ⟨hrelative, hnamed⟩ := Source.relative_of_leadsAlike h root
  unfold visitedRoutes visit at hroutes ⊢
  rw [readingThrough_none] at hroutes ⊢
  cases hfile : Source.relative t root path with
  | error fault =>
    rw [hfile] at hroutes
    cases hroutes
  | ok file =>
    rw [hfile] at hroutes
    obtain rfl : Visited.routes ⟨file, routesOfFile t path file⟩ = routes := Except.ok.inj hroutes
    have hread := Source.toOption_read h.1
    cases hsource : Source.read t path with
    | error fault =>
      -- What cannot be read has no routes, whatever it is called.
      obtain ⟨file', hfile'⟩ := Except.exists_eq_ok_of_isOk (hnamed.trans (by rw [hfile]; rfl))
      cases hsource' : Source.read u path with
      | ok source =>
        rw [hsource, hsource'] at hread
        cases hread
      | error fault' =>
        rw [hfile']
        unfold routesOfFile
        rw [hsource, hsource']
        rfl
    | ok source =>
      obtain ⟨found, hfound⟩ := Source.exists_status_of_read hsource
      rw [hrelative found hfound, hfile]
      unfold routesOfFile
      rw [Except.eq_ok_of_toOption_eq hread hsource, hsource]
      rfl

end Routers

/-! ## Projects -/

namespace Controllers

open Scan (ResultsIn)
open Source (SameBelow)

variable {t u : FileTree} {root project : Path} {projects : List Path}

/-- The endings that are looked for. -/
def endings : List Text := projectFiles.suffixes ++ sourceFiles.suffixes

/-- A project contributes the same. -/
theorem contribution_eq_of_sameBelow (h : SameBelow t u root endings)
    (hproject : IsProject t root project) :
    contribution u root projects project = contribution t root projects project := by
  have hbelow : SameBelow t u project endings := h.of_enters hproject.enters
  obtain ⟨sources, hsources, -, hmem⟩ :=
    Source.exists_files sourceFiles hbelow.walkable rfl
  have hsources' : Source.files u project sourceFiles = .ok sources := by
    rw [hbelow.files_eq rfl fun ending hending => List.mem_append_right _ hending, hsources]
  have hown : ownFiles t projects project =
      .ok (sources.filter fun file => !isNested projects project file) := by
    rw [ownFiles, hsources]
    rfl
  have hown' : ownFiles u projects project =
      .ok (sources.filter fun file => !isNested projects project file) := by
    rw [ownFiles, hsources']
    rfl
  -- Both have the same name, since the root is canonical in both trees.
  obtain ⟨name, hname, hname'⟩ : ∃ name, projectName t root project = .ok name ∧
      projectName u root project = .ok name := by
    unfold projectName Source.relative FileTree.seenFrom
    rw [hbelow.canonical_eq.1, hbelow.canonical_eq.2]
    split
    · exact ⟨_, rfl, rfl⟩
    · split
      · exact ⟨_, rfl, rfl⟩
      · exact ⟨_, rfl, rfl⟩
  refine contribution_congr hname hname' hown hown' fun file hfile => ?_
  have hcomes := (hmem file).mp (List.mem_filter.mp hfile).1
  exact (hbelow.leadsAlike_of_isBelow rfl
    (fun ending hending => List.mem_append_right _ hending) hcomes).2.1

end Controllers

/-! ## Discoveries -/

section Discovery

open Scan (ResultsIn)
open Source (SameBelow)

variable {t u : FileTree} {root : Path} {routes : List Discovered}

/-- The endings that a scanner looks for. -/
def Scanner.endings : Scanner → List Text
  | .controllers => Controllers.endings
  | .routers => Routers.scripts.suffixes
  | .idle => []

/-- A scan results in something that does not depend on what was reported before it. -/
theorem Scanner.exists_resultsIn_scan (scanner : Scanner) (t : FileTree) (root : Path) :
    ∃ result, ResultsIn (scanner.scan t root) result := by
  cases scanner with
  | idle => exact ⟨_, .pure []⟩
  | routers => exact ⟨_, Routers.resultsIn_discover t root⟩
  | controllers =>
    cases hfiles : Source.files t root Controllers.projectFiles with
    | ok files => exact ⟨_, Controllers.resultsIn_discover hfiles⟩
    | error fault => exact ⟨_, Controllers.resultsIn_discover_of_error hfiles⟩

/-- A scan that looks for anything succeeds only if the walk goes through. -/
theorem Scanner.isWalkable_of_scan {scanner : Scanner} (hscanner : scanner ≠ .idle)
    (hrooted : t.IsRooted) (hnames : t.HasFileNames)
    (hroot : t.status root = .ok (root.names, .directory))
    (hscan : ResultsIn (scanner.scan t root) (.ok routes)) : t.IsWalkable root := by
  cases scanner with
  | idle => exact absurd rfl hscanner
  | controllers =>
    cases hfiles : Source.files t root Controllers.projectFiles with
    | ok files => exact Source.isWalkable_of_files hrooted hnames hroot rfl hfiles
    | error fault =>
      have hresult := (Controllers.resultsIn_discover_of_error hfiles []).symm.trans (hscan [])
      cases hresult
  | routers =>
    have hresult := (Routers.resultsIn_discover t root []).symm.trans (hscan [])
    obtain ⟨found, hfound, -⟩ := Except.bind_eq_ok.mp hresult
    obtain ⟨files, hfiles, -⟩ := Routers.routesOfScripts_eq_ok_iff.mp hfound
    exact Source.isWalkable_of_files hrooted hnames hroot rfl hfiles

/-- The same routes are found. -/
theorem Scanner.resultsIn_scan_of_sameBelow {scanner : Scanner}
    (h : SameBelow t u root scanner.endings) :
    ∃ result, ResultsIn (scanner.scan t root) result ∧
      ∀ routes, result = .ok routes → ResultsIn (scanner.scan u root) (.ok routes) := by
  cases scanner with
  | idle =>
    refine ⟨.ok [], .pure [], fun routes hroutes => ?_⟩
    cases hroutes
    exact .pure []
  | controllers =>
    obtain ⟨files, hfiles, -, hmem⟩ :=
      Source.exists_files Controllers.projectFiles h.walkable rfl
    have hfiles' := (h.files_eq rfl fun ending hending =>
      List.mem_append_left Controllers.sourceFiles.suffixes hending).trans hfiles
    refine ⟨_, Controllers.resultsIn_discover hfiles, fun routes hroutes => ?_⟩
    have hscan := Controllers.resultsIn_discover hfiles'
    rw [Except.mapM_congr fun project hproject => ?_, hroutes] at hscan
    · exact hscan
    · obtain ⟨file, hfile, hparent⟩ := Controllers.mem_projectsOf.mp hproject
      exact Controllers.contribution_eq_of_sameBelow h ⟨file, (hmem file).mp hfile, hparent⟩
  | routers =>
    refine ⟨_, Routers.resultsIn_discover t root, fun routes hroutes => ?_⟩
    obtain ⟨found, hfound, hsorted⟩ := Except.bind_eq_ok.mp hroutes
    obtain ⟨files, hfiles, hvisited⟩ := Routers.routesOfScripts_eq_ok_iff.mp hfound
    obtain ⟨paths, hpaths, -, hmem⟩ :=
      Source.exists_files Routers.scripts h.walkable rfl
    obtain rfl : files = paths := Except.ok.inj (hfiles.symm.trans hpaths)
    -- Each script is visited with the same success.
    have hagain : Routers.routesOfScripts u root = .ok found := by
      refine Routers.routesOfScripts_eq_ok_iff.mpr
        ⟨files, (h.files_eq rfl fun ending hending => hending).trans hfiles, ?_⟩
      rw [← hvisited]
      refine Except.mapM_congr fun path hpath => ?_
      obtain ⟨own, hown⟩ := Except.exists_of_mapM_eq_ok hvisited path hpath
      have hleads := (h.leadsAlike_of_isBelow rfl (fun ending hending => hending)
        ((hmem path).mp hpath)).2
      rw [hown, Routers.visitedRoutes_of_leadsAlike hleads hown]
    have hscan := Routers.resultsIn_discover u root
    rw [hagain] at hscan
    exact hsorted ▸ hscan

/-- A discovery succeeds only where a walk goes through. -/
theorem Backend.isWalkable_of_discover {b : Backend} {time : Text} {i : Index}
    (hscanner : b.scanner ≠ .idle) (hrooted : t.IsRooted) (hnames : t.HasFileNames)
    (hroot : t.status root = .ok (root.names, .directory)) (hcanonical : t.canonical root = .ok root)
    (hdiscover : ((b.discover t root time).resume none []).1 = .ok i) : t.IsWalkable root := by
  obtain ⟨result, hscan⟩ := b.scanner.exists_resultsIn_scan t root
  rw [Backend.resultsIn_discover hcanonical hscan time []] at hdiscover
  obtain ⟨routes, rfl, -⟩ := Except.bind_eq_ok.mp hdiscover
  exact Scanner.isWalkable_of_scan hscanner hrooted hnames hroot hscan

/-- **What is not seen makes no difference.** Where the sources are the same, the same index is
discovered. -/
theorem Backend.discover_of_sameBelow {b : Backend} {time : Text} {i : Index}
    (h : SameBelow t u root b.scanner.endings)
    (hdiscover : ((b.discover t root time).resume none []).1 = .ok i) :
    ((b.discover u root time).resume none []).1 = .ok i := by
  obtain ⟨result, hscan, hagain⟩ := Scanner.resultsIn_scan_of_sameBelow h
  obtain ⟨hcanonical, hcanonical'⟩ := h.canonical_eq
  rw [Backend.resultsIn_discover hcanonical hscan time []] at hdiscover
  obtain ⟨routes, hroutes, hbuild⟩ := Except.bind_eq_ok.mp hdiscover
  rw [Backend.resultsIn_discover hcanonical' (hagain routes hroutes) time []]
  exact hbuild

end Discovery

end RouteAtlas
