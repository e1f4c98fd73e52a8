import RouteAtlas.Discovery.Run
import RouteAtlas.Proofs.Controllers.Routes
import RouteAtlas.Proofs.Discovery.Projects
import RouteAtlas.Proofs.Files.Canonical

/-!
# What projects contribute

In a repository that a walk goes through, each project contributes something
(`contribution_cases`): the routes of all its sources if each of these can be read, and otherwise
nothing, which is reported. Nothing else can go wrong with a project. What was read is somewhere, so
it has a canonical path and the routes can say in which file they are, and the classes that were
found have all that their routes need. So the discovery ends with an index of what the projects
contribute (`discovers_of_isWalkable`), unless the digest collides.

A project is scanned with reports and cancellations, but what it contributes does not depend on
them. So it is said without a scan: first as work that may fail (`routesOfProject`), then with what
is recovered from taken for nothing (`contribution`), and at last as a plain list (`contributed`).
Each of them is shown to be what the one before comes to.
-/

namespace RouteAtlas

/-! ## Sources that are read -/

namespace Source

variable {t : FileTree} {root path : Path} {place : Place} {entry : Entry}

/-- What a source is called in its repository depends on where it leads. -/
theorem relative_of_status (h : t.status path = .ok (place, entry)) (root : Path) :
    relative t root path = .ok ((Path.relativeTo? ⟨.slash, place⟩ root).getD path).text := by
  unfold relative FileTree.seenFrom
  rw [if_pos (FileTree.isLookable_of_status h).1, FileTree.canonical_of_status h]
  rfl

theorem exists_status_of_read {source : Text} (h : read t path = .ok source) :
    ∃ found, t.status path = .ok found := by
  unfold read at h
  obtain ⟨bytes, hbytes, -⟩ := Except.bind_eq_ok.mp h
  obtain ⟨found, hfound, -⟩ := Except.bind_eq_ok.mp (Except.mapError_eq_ok.mp hbytes)
  exact ⟨found, hfound⟩

/-- A source that cannot be read is at fault itself. -/
theorem isPartial_of_read {fault : DiscoveryFault} (h : read t path = .error fault) :
    fault.isPartial = true := by
  unfold read at h
  cases hread : Files.read t path with
  | error problem =>
    rw [hread] at h
    cases h
    rfl
  | ok bytes =>
    rw [hread] at h
    cases hdecode : Utf8.decodeMarked bytes with
    | error problem =>
      dsimp only [Except.mapError, bind, Except.bind] at h
      rw [hdecode] at h
      cases h
      rfl
    | ok text =>
      dsimp only [Except.mapError, bind, Except.bind] at h
      rw [hdecode] at h
      cases h

end Source

/-- What the discovery of an index results in: the index of the routes that were found. -/
theorem Backend.resultsIn_discover {b : Backend} {t : FileTree} {given root : Path}
    {result : Except DiscoveryFault (List Discovered)} (hgiven : t.canonical given = .ok root)
    (hscan : Scan.ResultsIn (b.scanner.scan t root) result) (time : Text) :
    Scan.ResultsIn (b.discover t given time) (result >>= fun routes =>
      (buildIndex ⟨root.text, b.language, b.framework⟩ time routes).mapError .unbuilt) := by
  unfold discover
  rw [hgiven]
  exact .behind (.ofExcept _) (.bind hscan fun routes => .ofExcept _)

namespace Controllers

open Scan (ResultsIn Reports IsInterruptible)

variable {t : FileTree} {root project file : Path} {projects own : List Path} {name : Text}

/-! ## Classes and their routes -/

theorem mem_of_mem_controllersFrom {classes rest : List ClassDecl} {found : List (Path × Nat)}
    {c : ClassDecl} (h : c ∈ controllersFrom classes found rest) : c ∈ rest := by
  induction rest generalizing found with
  | nil => cases h
  | cons other rest ih =>
    unfold controllersFrom at h
    split at h
    · rcases List.mem_cons.mp h with rfl | hlater
      · exact List.mem_cons_self
      · exact List.mem_cons_of_mem other (ih hlater)
    · exact List.mem_cons_of_mem other (ih h)

theorem mem_of_mem_findControllers {classes : List ClassDecl} {c : ClassDecl}
    (h : c ∈ findControllers classes) : c ∈ classes :=
  mem_of_mem_controllersFrom h

/-- Classes come of sources that were read. -/
theorem exists_of_mem_classesIn {classes : List ClassDecl} (h : classesIn t own = .ok classes)
    {c : ClassDecl} (hc : c ∈ classes) :
    ∃ file ∈ own, (∃ source, Source.read t file = .ok source) ∧ c.IsSound file := by
  unfold classesIn at h
  obtain ⟨groups, hgroups, h⟩ := Except.bind_eq_ok.mp h
  cases h
  obtain ⟨group, hgroup, hmem⟩ := List.mem_flatten.mp hc
  obtain ⟨file, hfile, hread⟩ := Except.exists_of_mem_mapM hgroups hgroup
  cases hsource : Source.read t file with
  | error fault =>
    rw [hsource] at hread
    cases hread
  | ok source =>
    rw [hsource] at hread
    cases hread
    exact ⟨file, hfile, ⟨source, hsource⟩, isSound_of_mem_classesOf hmem⟩

/-- Either all sources can be read, or the first one that cannot be is at fault. -/
theorem classesIn_cases (t : FileTree) (own : List Path) :
    (∃ classes, classesIn t own = .ok classes ∧
        ∀ file ∈ own, ∃ source, Source.read t file = .ok source) ∨
      ∃ file ∈ own, ∃ fault, Source.read t file = .error fault ∧
        classesIn t own = .error fault := by
  unfold classesIn
  cases hgroups : own.mapM fun file => (classesOf · file) <$> Source.read t file with
  | ok groups =>
    refine .inl ⟨groups.flatten, rfl, fun file hfile => ?_⟩
    obtain ⟨group, hgroup⟩ := Except.exists_of_mapM_eq_ok hgroups file hfile
    cases hsource : Source.read t file with
    | ok source => exact ⟨source, rfl⟩
    | error fault =>
      rw [hsource] at hgroup
      cases hgroup
  | error fault =>
    obtain ⟨file, hfile, hfault⟩ := Except.exists_of_mapM_eq_error hgroups
    refine .inr ⟨file, hfile, fault, ?_, rfl⟩
    cases hsource : Source.read t file with
    | ok source =>
      rw [hsource] at hfault
      cases hfault
    | error fault' =>
      rw [hsource] at hfault
      cases hfault
      rfl

/-- Controllers in files that lead somewhere have routes. -/
theorem exists_routesOfControllers {controllers : List ClassDecl}
    (h : ∀ c ∈ controllers, ∃ found, t.status c.file = .ok found) (root : Path) :
    ∃ routes, routesOfControllers t root controllers = .ok routes := by
  have hgroups : ∀ c ∈ controllers, ∃ group,
      (fun file => (c.controllerRoute file, c.endpoints file)) <$>
        Source.relative t root c.file = .ok group := by
    intro c hc
    obtain ⟨⟨place, entry⟩, hstatus⟩ := h c hc
    rw [Source.relative_of_status hstatus]
    exact ⟨_, rfl⟩
  obtain ⟨groups, hall⟩ := Except.exists_mapM_eq_ok hgroups
  refine ⟨groups.map (·.1) ++ groups.flatMap (·.2), ?_⟩
  unfold routesOfControllers
  rw [hall]
  rfl

/-- They are sound if the classes are. -/
theorem isSound_of_mem_routesOfControllers {controllers : List ClassDecl}
    (hsound : ∀ c ∈ controllers, ∃ file, c.IsSound file) {routes : List Discovered}
    (h : routesOfControllers t root controllers = .ok routes) {d : Discovered} (hd : d ∈ routes) :
    d.IsSound ∧ d.HasTextPath := by
  unfold routesOfControllers at h
  obtain ⟨groups, hgroups, h⟩ := Except.bind_eq_ok.mp h
  cases h
  -- A route is that of a controller or of one of its endpoints.
  have hgroup : ∃ group ∈ groups, d = group.1 ∨ d ∈ group.2 := by
    rcases List.mem_append.mp hd with hfirst | hendpoint
    · obtain ⟨group, hgroup, rfl⟩ := List.mem_map.mp hfirst
      exact ⟨group, hgroup, .inl rfl⟩
    · obtain ⟨group, hgroup, hmem⟩ := List.mem_flatMap.mp hendpoint
      exact ⟨group, hgroup, .inr hmem⟩
  obtain ⟨group, hmem, hroute⟩ := hgroup
  obtain ⟨c, hc, hfound⟩ := Except.exists_of_mem_mapM hgroups hmem
  obtain ⟨file, hfile⟩ := hsound c hc
  cases hrelative : Source.relative t root c.file with
  | error fault =>
    rw [hrelative] at hfound
    cases hfound
  | ok text =>
    rw [hrelative] at hfound
    cases hfound
    have hroutes : d ∈ c.routes text := by
      rcases hroute with rfl | hlater
      · exact List.mem_cons_self
      · exact List.mem_cons_of_mem _ hlater
    exact hfile.isSound_of_mem_routes hroutes

/-! ## One project -/

/-- **What a project contributes.** If one of its own sources cannot be read, it contributes
nothing, and otherwise the routes of all of them. -/
theorem contribution_cases (hname : projectName t root project = .ok name)
    (hown : ownFiles t projects project = .ok own) :
    (∃ file ∈ own, ∃ fault, Source.read t file = .error fault ∧
        routesOfProject t root projects project = .error fault ∧
        contribution t root projects project = .ok []) ∨
      (∀ file ∈ own, ∃ source, Source.read t file = .ok source) ∧
        ∃ classes routes, classesIn t own = .ok classes ∧
          routesOfControllers t root (findControllers classes) = .ok routes ∧
          contribution t root projects project = .ok routes ∧
          ∀ d ∈ routes, d.IsSound ∧ d.HasTextPath := by
  have hproject (classes : Except DiscoveryFault (List ClassDecl))
      (hclasses : classesIn t own = classes) :
      routesOfProject t root projects project =
        classes >>= fun classes => routesOfControllers t root (findControllers classes) := by
    rw [routesOfProject_eq hown, hclasses]
  rcases classesIn_cases t own with
    ⟨classes, hclasses, hread⟩ | ⟨file, hfile, fault, hfault, hclasses⟩
  · right
    -- Each controller stands in a source that was read.
    have hfiles : ∀ c ∈ findControllers classes, ∃ found, t.status c.file = .ok found := by
      intro c hc
      obtain ⟨file, -, ⟨source, hsource⟩, hsound⟩ :=
        exists_of_mem_classesIn hclasses (mem_of_mem_findControllers hc)
      rw [hsound.file_eq]
      exact Source.exists_status_of_read hsource
    obtain ⟨routes, hroutes⟩ := exists_routesOfControllers hfiles root
    have hwhole : routesOfProject t root projects project = .ok routes :=
      (hproject _ hclasses).trans hroutes
    refine ⟨hread, classes, routes, hclasses, hroutes, ?_, fun d hd => ?_⟩
    · rw [contribution, hname, hwhole]
      rfl
    · refine isSound_of_mem_routesOfControllers (fun c hc => ?_) hroutes hd
      obtain ⟨file, -, -, hsound⟩ :=
        exists_of_mem_classesIn hclasses (mem_of_mem_findControllers hc)
      exact ⟨file, hsound⟩
  · left
    have hwhole : routesOfProject t root projects project = .error fault := hproject _ hclasses
    refine ⟨file, hfile, fault, hfault, hwhole, ?_⟩
    rw [contribution, hname, hwhole]
    exact if_pos (Source.isPartial_of_read hfault)

/-- What is reported of a project that is passed over. -/
def skipMessage (name : Text) (fault : DiscoveryFault) : Text :=
  "  Skipped ".toList ++ name ++ ": ".toList ++ fault.message

/-- A project that is at fault itself is reported. -/
theorem reports_scanProjectOrSkip (hname : projectName t root project = .ok name)
    {fault : DiscoveryFault} (hfault : routesOfProject t root projects project = .error fault)
    (hpartial : fault.isPartial = true) :
    Reports (scanProjectOrSkip t root projects project) (skipMessage name fault) := by
  have hattempt := (resultsIn_scanProject t root projects project).attempt
  rw [hfault, Scan.attempted] at hattempt
  rw [if_pos hpartial] at hattempt
  unfold scanProjectOrSkip
  refine .behind .check ?_
  rw [hname]
  refine .behind (.ofExcept _) (.behind hattempt ?_)
  exact (Reports.report _).before fun _ => .pure []

/-- The routes that a project contributes. -/
def contributed (t : FileTree) (root : Path) (projects : List Path) (project : Path) :
    List Discovered :=
  (contribution t root projects project).toOption.getD []

theorem contributed_eq {routes : List Discovered}
    (h : contribution t root projects project = .ok routes) :
    contributed t root projects project = routes := by
  rw [contributed, h]
  rfl

/-! ## All projects -/

/-- A project has a name, since its directory is found under its own path. -/
theorem IsProject.exists_projectName (h : IsProject t root project) (hroot : t.IsWalkable root) :
    ∃ name, projectName t root project = .ok name := by
  unfold projectName
  by_cases heq : project = root
  · exact ⟨project.name, if_pos heq⟩
  · rw [if_neg heq, Source.relative_of_status (h.isWalkable hroot).status_eq]
    exact ⟨_, rfl⟩

section Walkable

variable (h : t.IsWalkable root)
  (hprojects : ∀ project, project ∈ projects ↔ IsProject t root project)

include h hprojects

/-- Every project contributes something. -/
theorem contribution_eq_ok (hproject : project ∈ projects) :
    contribution t root projects project = .ok (contributed t root projects project) ∧
      ∀ d ∈ contributed t root projects project, d.IsSound ∧ d.HasTextPath := by
  rw [hprojects] at hproject
  obtain ⟨name, hname⟩ := hproject.exists_projectName h
  obtain ⟨own, hown, -⟩ := exists_ownFiles h hproject hprojects
  rcases contribution_cases hname hown with
    ⟨-, -, -, -, -, hnothing⟩ | ⟨-, _, routes, -, -, hall, hsound⟩
  · rw [contributed_eq hnothing]
    exact ⟨hnothing, fun d hd => by cases hd⟩
  · rw [contributed_eq hall]
    exact ⟨hall, hsound⟩

/-- That is what the scan of the project results in. -/
theorem resultsIn_scanProjectOrSkip_contributed (hproject : project ∈ projects) :
    ResultsIn (scanProjectOrSkip t root projects project)
      (.ok (contributed t root projects project)) := by
  rw [← (contribution_eq_ok h hprojects hproject).1]
  exact resultsIn_scanProjectOrSkip t root projects project

/-- A project with a source that cannot be read contributes nothing and is reported. -/
theorem skipped_of_read {fault : DiscoveryFault} (hnearest : IsNearest t root project file)
    (hbelow : Source.IsBelow t sourceFiles project file)
    (hfault : Source.read t file = .error fault) :
    contributed t root projects project = [] ∧
      ∃ bad fault name, IsNearest t root project bad ∧ Source.IsBelow t sourceFiles project bad ∧
        Source.read t bad = .error fault ∧ projectName t root project = .ok name ∧
        Reports (scanProjectOrSkip t root projects project) (skipMessage name fault) := by
  obtain ⟨name, hname⟩ := hnearest.isProject.exists_projectName h
  obtain ⟨own, hown, -, hmem⟩ := exists_ownFiles h hnearest.isProject hprojects
  rcases contribution_cases hname hown with
    ⟨bad, hbad, fault, hread, hwhole, hnothing⟩ | ⟨hall, -⟩
  · rw [hmem] at hbad
    refine ⟨contributed_eq hnothing, bad, fault, name, hbad.1, hbad.2, hread, hname, ?_⟩
    exact reports_scanProjectOrSkip hname hwhole (Source.isPartial_of_read hread)
  · obtain ⟨source, hsource⟩ := hall file ((hmem file).mpr ⟨hnearest, hbelow⟩)
    rw [hfault] at hsource
    cases hsource

end Walkable

/-! ## Discoveries -/

/-- What an uncancelled discovery comes to in a repository with certain projects. -/
structure Discovers (t : FileTree) (given root : Path) (time : Text) (projects : List Path) :
    Prop where
  /-- The scan of each project results in its routes. -/
  scanned : ∀ project ∈ projects, ResultsIn (scanProjectOrSkip t root projects project)
    (.ok (contributed t root projects project))
  /-- The index holds the routes of one project after the other, unless the digest collides. -/
  index :
    (∃ i, ((Backend.controllers.discover t given time).resume none []).1 = .ok i ∧
      i.routes.map Record.discovered = projects.flatMap (contributed t root projects)) ∨
    ∃ d ∈ projects.flatMap (contributed t root projects),
      d.HasCollision (projects.flatMap (contributed t root projects)).length
  /-- A project with a source that cannot be read contributes nothing and is reported as skipped,
  because of such a source. -/
  skipped : ∀ project file fault, IsNearest t root project file →
    Source.IsBelow t sourceFiles project file → Source.read t file = .error fault →
    contributed t root projects project = [] ∧
      ∃ bad fault name, IsNearest t root project bad ∧ Source.IsBelow t sourceFiles project bad ∧
        Source.read t bad = .error fault ∧ projectName t root project = .ok name ∧
        skipMessage name fault ∈ ((Backend.controllers.discover t given time).resume none []).2

variable {files : List Path} {given : Path} {time : Text}

/-- What is reported of a project is reported of the repository. -/
theorem reports_discover (hfiles : Source.files t root projectFiles = .ok files)
    (hproject : project ∈ projectsOf files) {message : Text}
    (hsteps : ∀ project ∈ projectsOf files, ∃ routes,
      ResultsIn (scanProjectOrSkip t root (projectsOf files) project) (.ok routes))
    (h : Reports (scanProjectOrSkip t root (projectsOf files) project) message) :
    Reports (discover t root) message := by
  have hsome : files.isEmpty = false := by
    obtain ⟨file, hfile, -⟩ := mem_projectsOf.mp hproject
    rw [← Bool.not_eq_true, List.isEmpty_iff]
    rintro rfl
    cases hfile
  have hgrows := isInterruptible_scanProjectOrSkip t root (projectsOf files)
  unfold discover
  refine .behind (.report _) ?_
  rw [hfiles]
  refine .behind (.ofExcept _) ?_
  rw [hsome, if_neg Bool.false_ne_true]
  exact (Reports.mapM hproject h hgrows hsteps).before fun _ => .bind (.report _) fun _ => .pure _

/-- Where there is one project, the index is that of what it contributes. -/
theorem result_discover_of_project {routes : List Discovered} {project : Path}
    (hgiven : t.canonical given = .ok root)
    (hfiles : Source.files t root projectFiles = .ok files) (hproject : projectsOf files = [project])
    (hcontribution : contribution t root [project] project = .ok routes) (time : Text) :
    ((Backend.controllers.discover t given time).resume none []).1 =
      (buildIndex ⟨root.text, Backend.controllers.language, Backend.controllers.framework⟩ time
        routes).mapError .unbuilt := by
  have hscan := resultsIn_discover hfiles
  rw [hproject, List.mapM_cons, List.mapM_nil, hcontribution] at hscan
  have hrun := Backend.resultsIn_discover (b := .controllers) hgiven hscan time []
  rw [hrun]
  show Except.mapError _ (buildIndex _ time [routes].flatten) = _
  rw [List.flatten_singleton]

/-- **A discovery that is not cancelled** comes to an index of what the projects contribute, one
behind the other, unless the digest collides. -/
theorem discovers_of_isWalkable (h : t.IsWalkable root) (hgiven : t.canonical given = .ok root)
    (hfiles : Source.files t root projectFiles = .ok files)
    (hprojects : ∀ project, project ∈ projectsOf files ↔ IsProject t root project) (time : Text) :
    Discovers t given root time (projectsOf files) where
  scanned project hproject := resultsIn_scanProjectOrSkip_contributed h hprojects hproject
  index := by
    have hcontributions : (projectsOf files).mapM (contribution t root (projectsOf files)) =
        .ok ((projectsOf files).map (contributed t root (projectsOf files))) :=
      Except.mapM_eq_ok_map fun project hproject => (contribution_eq_ok h hprojects hproject).1
    have hscan := resultsIn_discover hfiles
    rw [hcontributions] at hscan
    have hsound : ∀ d ∈ (projectsOf files).flatMap (contributed t root (projectsOf files)),
        d.IsSound ∧ d.HasTextPath := by
      intro d hd
      obtain ⟨project, hproject, hmem⟩ := List.mem_flatMap.mp hd
      exact (contribution_eq_ok h hprojects hproject).2 d hmem
    have hrun : ResultsIn (Backend.controllers.discover t given time)
        ((buildIndex ⟨root.text, Backend.controllers.language, Backend.controllers.framework⟩ time
          ((projectsOf files).flatMap (contributed t root (projectsOf files)))).mapError
            .unbuilt) :=
      Backend.resultsIn_discover (b := .controllers) hgiven hscan time
    rw [hrun []]
    rcases buildIndex_cases (fun d hd => (hsound d hd).1)
        ⟨root.text, Backend.controllers.language, Backend.controllers.framework⟩ time with
      ⟨i, hbuild, -, -, -, -, hroutes⟩ | ⟨-, -, d, hd, hnot⟩ | hcollision
    · left
      exact ⟨i, by rw [hbuild]; rfl, hroutes⟩
    · exact absurd (hsound d hd).2 hnot
    · exact .inr hcollision
  skipped project file fault hnearest hbelow hfault := by
    obtain ⟨hnothing, bad, fault, name, hbad, hcomes, hread, hname, hreports⟩ :=
      skipped_of_read h hprojects hnearest hbelow hfault
    refine ⟨hnothing, bad, fault, name, hbad, hcomes, hread, hname, ?_⟩
    have hproject := (hprojects project).mpr hnearest.isProject
    have hdiscover := reports_discover hfiles hproject
      (fun project hproject => ⟨_, resultsIn_scanProjectOrSkip_contributed h hprojects hproject⟩)
      hreports
    have hwhole : Reports (Backend.controllers.discover t given time) (skipMessage name fault) := by
      unfold Backend.discover
      rw [hgiven]
      refine .behind (.ofExcept _) (hdiscover.before fun routes => .ofExcept ?_)
      cases buildIndex _ time routes <;> simp [Except.mapError]
    exact hwhole []

end Controllers

end RouteAtlas
