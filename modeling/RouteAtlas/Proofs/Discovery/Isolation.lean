import RouteAtlas.Proofs.Discovery.Contribution

/-!
# Projects do not depend on each other

Two repositories with the same projects that differ only in the sources of one of them
(`DifferIn`) have the same directories, so a walk goes the same way in both. A source of another
project that is a file is found under its own path, where both repositories hold the same; one that
is a link may lead into the project in which they differ. If none does (`LinksAgree`), then every
other project is left with the same sources (`ownFiles_eq`) and contributes the same routes in both
(`discover_isolated`). Otherwise it need not (`contributed_of_link`).

What a project contributes is a matter of its name, the list of its sources and what each of them
holds (`contribution_congr`). None of these is looked up anywhere else than below the project, but
for one thing: which sources are its own depends on where the other projects are, since a nested
project takes its sources away. The list of projects is therefore shown to be the same first.

Nothing is asked of the project in which the repositories differ. It may be skipped in the one and
not in the other; the routes of the others come before and behind its own in the same order. Only
their identifiers may change, if an identifier was taken by a route of that project.
-/

namespace RouteAtlas

namespace FileTree

variable {t u : FileTree} {directory : Path} {name : Text}

/-- What a path leads to says whether it leads to a directory. -/
theorem isDirectory_congr {path : Path}
    (h : (t.status path).toOption = (u.status path).toOption) :
    t.isDirectory path = u.isDirectory path := by
  have hoption (tree : FileTree) : tree.isDirectory path =
      ((tree.status path).toOption.map (·.2.isDirectory)).getD false := by
    unfold isDirectory
    cases tree.status path <;> rfl
  rw [hoption, hoption, h]

section Child

variable (ht : t.IsWalkable directory) (hu : u.IsWalkable directory)
  (hsame : t.get? (directory.names ++ [name]) = u.get? (directory.names ++ [name]))
  (hlink : ∀ target, t.get? (directory.names ++ [name]) ≠ some (.link target))

include ht hu hsame hlink

/-- A name in a directory leads to the same in two trees that hold the same there, unless it is the
name of a link. -/
theorem follow_singleton_congr (links links' : Nat) :
    t.follow .followed links directory.names [name] =
      u.follow .followed links' directory.names [name] := by
  have hlook := look_congr (ht.get?_names.trans hu.get?_names.symm) hsame
  cases hfound : t.look directory.names name with
  | error reason => rw [follow_of_error hfound, follow_of_error (hlook.symm.trans hfound)]
  | ok found =>
    cases found with
    | nothing => rw [follow_of_nothing hfound, follow_of_nothing (hlook.symm.trans hfound)]
    | link target => exact absurd (look_eq_link hfound).2 (hlink target)
    | entry next =>
      have hnext : t.get? next = u.get? next := by
        rcases look_cases hfound with ⟨-, hplain⟩ | ⟨-, hhere⟩ | ⟨-, -, habove⟩
        · obtain ⟨rfl, -⟩ := found_eq_entry hplain.symm
          exact hsame
        · cases hhere
          rw [ht.get?_names, hu.get?_names]
        · cases habove
          rw [ht.rooted _ (by rw [ht.get?_names]; rfl), hu.rooted _ (by rw [hu.get?_names]; rfl)]
      rw [follow_of_entry hfound, follow_of_entry (hlook.symm.trans hfound), follow, follow, hnext]

/-- So does its path. -/
theorem status_child_eq : t.status (directory.child name) = u.status (directory.child name) := by
  by_cases hlookable : IsLookable (directory.child name)
  · obtain ⟨links, hon⟩ := follow_append (follow_of_status ht.status_eq)
    obtain ⟨links', hon'⟩ := follow_append (follow_of_status hu.status_eq)
    have hfollow : t.follow .followed linkLimit [] (directory.child name).names =
        u.follow .followed linkLimit [] (directory.child name).names := by
      show t.follow _ _ _ (directory.names ++ [name]) = u.follow _ _ _ (directory.names ++ [name])
      rw [hon .followed [name] (List.cons_ne_nil _ _), hon' .followed [name] (List.cons_ne_nil _ _)]
      exact follow_singleton_congr ht hu hsame hlink links links'
    rw [status_of_isLookable hlookable, status_of_isLookable hlookable, hfollow]
  · -- A path that cannot be looked up leads nowhere in any tree.
    unfold status
    rw [locate_of_not_isLookable hlookable t u]

end Child

end FileTree

namespace Source

variable {t u : FileTree} {path : Path}

/-- Where a path leads to the same, if to anything, the same is read. -/
theorem toOption_read (h : (t.status path).toOption = (u.status path).toOption) :
    (read t path).toOption = (read u path).toOption := by
  cases ht : t.status path with
  | error fault =>
    cases hu : u.status path with
    | error fault' =>
      unfold read Files.read
      rw [ht, hu]
      rfl
    | ok found =>
      rw [ht, hu] at h
      cases h
  | ok found =>
    cases hu : u.status path with
    | error fault' =>
      rw [ht, hu] at h
      cases h
    | ok found' =>
      rw [ht, hu] at h
      cases h
      unfold read Files.read
      rw [ht, hu]

end Source

namespace Controllers

open Scan (ResultsIn)

variable {t u : FileTree} {root owner project file : Path} {projects own : List Path}

/-! ## Two repositories -/

/-- Two repositories have the same projects, and wherever they differ, there is in neither of them
anything but a source of one of these projects. -/
structure DifferIn (t u : FileTree) (root owner : Path) : Prop where
  isProject_iff : ∀ project, IsProject t root project ↔ IsProject u root project
  source : ∀ place, t.get? place ≠ u.get? place →
    t.get? place ≠ some .directory ∧ u.get? place ≠ some .directory ∧
      Path.suffix ⟨root.root, place⟩ ∈ sourceFiles.suffixes ∧
      IsNearest t root owner ⟨root.root, place⟩

/-- A link that a project has as a source, unless it leads to a directory. -/
structure IsSourceLink (t : FileTree) (root project link : Path) : Prop where
  nearest : IsNearest t root project link
  entered : ∃ directory name, Source.Enters t sourceFiles.ignored project directory ∧
    link = directory.child name
  ending : link.suffix ∈ sourceFiles.suffixes
  entry : ∃ target, t.get? link.names = some (.link target)

/-- No link that is a source of another project leads to something else in one of two repositories
than in the other. -/
def LinksAgree (t u : FileTree) (root owner : Path) : Prop :=
  ∀ project link, project ≠ owner → IsSourceLink t root project link →
    (t.status link).toOption = (u.status link).toOption

/-- Which project is the nearest one depends on where there are projects. -/
theorem IsNearest.congr (h : IsNearest t root project file)
    (hprojects : ∀ project, IsProject t root project ↔ IsProject u root project) :
    IsNearest u root project file where
  isProject := (hprojects project).mp h.isProject
  above := h.above
  nearest other hother := h.nearest other ((hprojects other).mpr hother)

namespace DifferIn

/-- Two repositories differ from each other. -/
theorem symm (h : DifferIn t u root owner) : DifferIn u t root owner where
  isProject_iff project := (h.isProject_iff project).symm
  source place hne := by
    obtain ⟨hdirectory, hdirectory', hending, hnearest⟩ := h.source place hne.symm
    exact ⟨hdirectory', hdirectory, hending, hnearest.congr h.isProject_iff⟩

/-- A directory of the one is a directory of the other. -/
theorem get?_directory (h : DifferIn t u root owner) {place : Place}
    (hplace : t.get? place = some .directory) : u.get? place = some .directory := by
  by_contra hne
  exact (h.source place fun heq => hne (heq ▸ hplace)).1 hplace

/-- A walk goes the same way. -/
theorem enters (h : DifferIn t u root owner) {ignored : List Text} {top directory : Path}
    (henters : Source.Enters t ignored top directory) : Source.Enters u ignored top directory := by
  induction henters with
  | top => exact .top
  | child _ hignored hentry ih => exact .child ih hignored (h.get?_directory hentry)

/-- A source of another project is the same. -/
theorem get?_eq (h : DifferIn t u root owner) (hproject : project ≠ owner)
    (hnearest : IsNearest t root project file) : t.get? file.names = u.get? file.names := by
  by_contra hne
  have howner := (h.source file.names hne).2.2.2
  have hroot : file.root = root.root := by
    rw [← (Path.isAncestor_iff.mp hnearest.above).1, hnearest.isProject.root_eq]
  have hfile : (⟨root.root, file.names⟩ : Path) = file := by rw [← hroot]
  rw [hfile] at howner
  exact hproject (hnearest.unique howner)

end DifferIn

theorem LinksAgree.symm (h : LinksAgree t u root owner) (hdiffer : DifferIn t u root owner) :
    LinksAgree u t root owner := by
  intro project link hproject hlink
  obtain ⟨hnearest, ⟨directory, name, hentered, hchild⟩, hending, target, hentry⟩ := hlink
  have hnearest' := hnearest.congr hdiffer.symm.isProject_iff
  have hlink' : IsSourceLink t root project link := by
    refine ⟨hnearest', ⟨directory, name, hdiffer.symm.enters hentered, hchild⟩, hending, target, ?_⟩
    rw [hdiffer.get?_eq hproject hnearest', hentry]
  exact (h project link hproject hlink').symm

section Other

variable (ht : t.IsWalkable root) (hu : u.IsWalkable root) (hdiffer : DifferIn t u root owner)
  (hlinks : LinksAgree t u root owner) (hproject : project ≠ owner)
  (hnearest : IsNearest t root project file)

include ht hu hdiffer hlinks hproject hnearest

/-- A source of another project leads to the same. -/
theorem toOption_status_eq (hentered : ∃ directory name,
      Source.Enters t sourceFiles.ignored project directory ∧ file = directory.child name)
    (hending : file.suffix ∈ sourceFiles.suffixes) :
    (t.status file).toOption = (u.status file).toOption := by
  by_cases hlink : ∃ target, t.get? file.names = some (.link target)
  · exact hlinks project file hproject ⟨hnearest, hentered, hending, hlink⟩
  · obtain ⟨directory, name, henters, rfl⟩ := hentered
    have hwalkable := henters.isWalkable (hnearest.isProject.isWalkable ht)
    have hwalkable' := (hdiffer.enters henters).isWalkable
      (((hdiffer.isProject_iff project).mp hnearest.isProject).isWalkable hu)
    rw [FileTree.status_child_eq hwalkable hwalkable' (hdiffer.get?_eq hproject hnearest)]
    exact fun target hget => hlink ⟨target, hget⟩

/-- A source that a walk comes to in the one is come to in the other, if it is not in that project.
-/
theorem isBelow_of_differIn (hbelow : Source.IsBelow t sourceFiles project file) :
    Source.IsBelow u sourceFiles project file := by
  have hstatus := toOption_status_eq ht hu hdiffer hlinks hproject hnearest hbelow.entered
    hbelow.ending
  obtain ⟨⟨directory, name, hentered, hchild⟩, hending, entry, hentry, hkind, hleads⟩ := hbelow
  refine ⟨⟨directory, name, hdiffer.enters hentered, hchild⟩, hending, entry, ?_, hkind, ?_⟩
  · rw [← hdiffer.get?_eq hproject hnearest, hentry]
  · intro hlink
    rw [← FileTree.isDirectory_congr hstatus]
    exact hleads hlink

end Other

/-- **Another project is left with the same sources.** -/
theorem ownFiles_eq (ht : t.IsWalkable root) (hu : u.IsWalkable root)
    (hdiffer : DifferIn t u root owner) (hlinks : LinksAgree t u root owner)
    (hprojects : ∀ project, project ∈ projects ↔ IsProject t root project)
    (hmem : project ∈ projects) (hproject : project ≠ owner) :
    ownFiles u projects project = ownFiles t projects project := by
  have hprojects' (project : Path) : project ∈ projects ↔ IsProject u root project :=
    (hprojects project).trans (hdiffer.isProject_iff project)
  obtain ⟨own, hown, hordered, hsources⟩ :=
    exists_ownFiles ht ((hprojects project).mp hmem) hprojects
  obtain ⟨own', hown', hordered', hsources'⟩ :=
    exists_ownFiles hu ((hprojects' project).mp hmem) hprojects'
  have hsame (file : Path) : file ∈ own' ↔ file ∈ own := by
    rw [hsources, hsources']
    constructor
    · rintro ⟨hnearest, hbelow⟩
      exact ⟨hnearest.congr hdiffer.symm.isProject_iff, isBelow_of_differIn hu ht hdiffer.symm
        (hlinks.symm hdiffer) hproject hnearest hbelow⟩
    · rintro ⟨hnearest, hbelow⟩
      exact ⟨hnearest.congr hdiffer.isProject_iff, isBelow_of_differIn ht hu hdiffer hlinks hproject
        hnearest hbelow⟩
  rw [hown, hown', Path.eq_of_pairwise_isBefore hordered' hordered hsame]

/-- Controllers have the same routes where their files lead to the same. -/
theorem routesOfControllers_congr {controllers : List ClassDecl}
    (h : ∀ c ∈ controllers, ∃ found, t.status c.file = .ok found ∧ u.status c.file = .ok found) :
    routesOfControllers u root controllers = routesOfControllers t root controllers := by
  unfold routesOfControllers
  rw [Except.mapM_congr fun c hc => ?_]
  obtain ⟨⟨place, entry⟩, hleads, hleads'⟩ := h c hc
  rw [Source.relative_of_status hleads, Source.relative_of_status hleads']

/-- A project contributes the same where its own sources lead to the same. -/
theorem contribution_congr {name name' : Text} (hname : projectName t root project = .ok name)
    (hname' : projectName u root project = .ok name')
    (hown : ownFiles t projects project = .ok own) (hown' : ownFiles u projects project = .ok own)
    (hstatus : ∀ file ∈ own, (t.status file).toOption = (u.status file).toOption) :
    contribution u root projects project = contribution t root projects project := by
  have hread (file : Path) (hfile : file ∈ own) :
      (Source.read t file).toOption = (Source.read u file).toOption :=
    Source.toOption_read (hstatus file hfile)
  rcases contribution_cases hname hown with
    ⟨bad, hbad, fault, hfault, -, hnothing⟩ | ⟨hall, classes, routes, hclasses, hroutes, hwhole, -⟩
  · rcases contribution_cases hname' hown' with ⟨-, -, -, -, -, hnothing'⟩ | ⟨hall', -⟩
    · -- It is skipped in both.
      rw [hnothing, hnothing']
    · obtain ⟨source, hsource⟩ := hall' bad hbad
      have hsame := hread bad hbad
      rw [hfault, hsource] at hsame
      cases hsame
  · have hsources (file : Path) (hfile : file ∈ own) : Source.read u file = Source.read t file := by
      obtain ⟨source, hsource⟩ := hall file hfile
      rw [hsource, Except.eq_ok_of_toOption_eq (hread file hfile) hsource]
    rcases contribution_cases hname' hown' with
      ⟨bad, hbad, fault, hfault, -⟩ | ⟨-, classes', routes', hclasses', hroutes', hwhole', -⟩
    · obtain ⟨source, hsource⟩ := hall bad hbad
      rw [hsources bad hbad, hsource] at hfault
      cases hfault
    · -- All of its sources can be read, and hold the same.
      have hfound : classesIn u own = classesIn t own := by
        unfold classesIn
        rw [Except.mapM_congr fun file hfile => by rw [hsources file hfile]]
      obtain rfl : classes' = classes :=
        Except.ok.inj (hclasses'.symm.trans (hfound.trans hclasses))
      have hfiles : ∀ c ∈ findControllers classes', ∃ found,
          t.status c.file = .ok found ∧ u.status c.file = .ok found := by
        intro c hc
        obtain ⟨file, hfile, ⟨source, hsource⟩, hsound⟩ :=
          exists_of_mem_classesIn hclasses (mem_of_mem_findControllers hc)
        obtain ⟨found, hleads⟩ := Source.exists_status_of_read hsource
        rw [hsound.file_eq]
        exact ⟨found, hleads, Except.eq_ok_of_toOption_eq (hstatus file hfile) hleads⟩
      rw [hwhole, hwhole', ← hroutes, ← hroutes', routesOfControllers_congr hfiles]

/-! ## Isolation -/

/-- **Projects do not depend on each other.** Take two repositories that a walk goes through, with
the same projects, that differ only in sources whose nearest project is a certain one; and let no
link that is a source of another project lead to something else in one of them. Then a discovery
comes to an index in both, unless the digest collides; every other project contributes the same
routes to it, and the projects follow each other in the same order. A project with a source that
cannot be read or holds no text contributes nothing and is reported as skipped. -/
theorem discover_isolated {given : Path} (ht : t.IsWalkable root) (hu : u.IsWalkable root)
    (hgiven : t.canonical given = .ok root) (hgiven' : u.canonical given = .ok root)
    (hdiffer : DifferIn t u root owner) (hlinks : LinksAgree t u root owner) (time : Text) :
    ∃ projects : List Path, projects.Nodup ∧
      (∀ project, project ∈ projects ↔ IsProject t root project) ∧
      Discovers t given root time projects ∧ Discovers u given root time projects ∧
      ∀ project ∈ projects, project ≠ owner →
        contributed u root projects project = contributed t root projects project := by
  obtain ⟨files, hfiles, hordered, hprojects⟩ := exists_projects ht
  obtain ⟨files', hfiles', hordered', hprojects'⟩ := exists_projects hu
  -- The projects are the same, and a walk comes to them in the same order.
  have hsame : projectsOf files' = projectsOf files := by
    refine Path.eq_of_pairwise_isBefore hordered' hordered fun project => ?_
    rw [hprojects, hprojects', hdiffer.isProject_iff]
  have hdiscovers := discovers_of_isWalkable hu hgiven' hfiles' hprojects' time
  rw [hsame] at hdiscovers
  refine ⟨projectsOf files, hordered.imp Path.IsBefore.ne, hprojects,
    discovers_of_isWalkable ht hgiven hfiles hprojects time, hdiscovers, ?_⟩
  intro project hmem hproject
  have hisProject := (hprojects project).mp hmem
  have hisProject' := (hdiffer.isProject_iff project).mp hisProject
  obtain ⟨name, hname⟩ := hisProject.exists_projectName ht
  obtain ⟨name', hname'⟩ := hisProject'.exists_projectName hu
  obtain ⟨own, hown, -, hsources⟩ := exists_ownFiles ht hisProject hprojects
  have hown' := (ownFiles_eq ht hu hdiffer hlinks hprojects hmem hproject).trans hown
  have hstatus (file : Path) (hfile : file ∈ own) :
      (t.status file).toOption = (u.status file).toOption := by
    obtain ⟨hnearest, hbelow⟩ := (hsources file).mp hfile
    exact toOption_status_eq ht hu hdiffer hlinks hproject hnearest hbelow.entered hbelow.ending
  unfold contributed
  rw [contribution_congr hname hname' hown hown' hstatus]

/-! ## Two projects -/

/-- A tree with the projects `p` and `q`, each with one source. -/
def twoProjects (first second : Entry) : FileTree where
  entries :=
    [(["p".toList], .directory), (["p".toList, "p.csproj".toList], .file [] 0o644),
      (["p".toList, "x.cs".toList], first), (["q".toList], .directory),
      (["q".toList, "q.csproj".toList], .file [] 0o644), (["q".toList, "y.cs".toList], second)]
  distinct := by
    show List.Nodup [["p".toList], ["p".toList, "p.csproj".toList], ["p".toList, "x.cs".toList],
      ["q".toList], ["q".toList, "q.csproj".toList], ["q".toList, "y.cs".toList]]
    decide

/-- The root of a tree. -/
def treeRoot : Path := ⟨.slash, []⟩

/-- The first project. -/
def firstProject : Path := ⟨.slash, ["p".toList]⟩

/-- The source of the first project. -/
def firstSource : Path := ⟨.slash, ["p".toList, "x.cs".toList]⟩

/-- The second project. -/
def secondProject : Path := ⟨.slash, ["q".toList]⟩

/-- The source of the second project. -/
def secondSource : Path := ⟨.slash, ["q".toList, "y.cs".toList]⟩

/-- A source with one controller. -/
def itemsSource : Text := "public class ItemsController : ControllerBase\n\x7b\n\x7d\n".toList

/-- A file that anyone may read. -/
def fileOf (contents : Bytes) : Entry := .file contents 0o644

/-- That source as a file. -/
def itemsFile : Entry := fileOf (Utf8.encode itemsSource)

/-- A file that holds no text. -/
def undecodableFile : Entry := fileOf [0xff]

/-- A link to the source of the first project. -/
def linkToFirst : Entry := .link "../p/x.cs".toList

section TwoProjects

variable (contents contents' : Bytes) {second : Entry}
  (hsecond : second = itemsFile ∨ second = linkToFirst)

include hsecond

/-- A walk goes through each of these trees. -/
theorem isWalkable_twoProjects : (twoProjects (fileOf contents) second).IsWalkable treeRoot := by
  refine FileTree.isWalkable_of_entries ?_ ?_ ?_ ?_
  · intro row hrow
    simp only [twoProjects, List.mem_cons, List.not_mem_nil, or_false] at hrow
    rcases hrow with rfl | rfl | rfl | rfl | rfl | rfl <;> cbv
  · intro row hrow
    simp only [twoProjects, List.mem_cons, List.not_mem_nil, or_false] at hrow
    rcases hrow with rfl | rfl | rfl | rfl | rfl | rfl <;> dsimp only <;> decide +kernel
  · cbv
  · intro row hrow
    simp only [twoProjects, List.mem_cons, List.not_mem_nil, or_false] at hrow
    rcases hsecond with rfl | rfl <;> rcases hrow with rfl | rfl | rfl | rfl | rfl | rfl <;> cbv

/-- The projects that a scan of the tree goes through. -/
theorem projectsOf_twoProjects :
    projectsOf <$> Source.files (twoProjects (fileOf contents) second) treeRoot projectFiles =
      .ok [firstProject, secondProject] := by
  rcases hsecond with rfl | rfl <;> cbv

theorem isProject_twoProjects (project : Path) :
    IsProject (twoProjects (fileOf contents) second) treeRoot project ↔
      project ∈ [firstProject, secondProject] := by
  obtain ⟨files, hfiles, -, hmem⟩ := exists_projects (isWalkable_twoProjects contents hsecond)
  have hprojects := projectsOf_twoProjects contents hsecond
  rw [hfiles] at hprojects
  have hfound : projectsOf files = [firstProject, secondProject] := Except.ok.inj hprojects
  rw [← hmem, hfound]

theorem isNearest_twoProjects :
    IsNearest (twoProjects (fileOf contents) second) treeRoot firstProject firstSource where
  isProject := (isProject_twoProjects contents hsecond _).mpr (by decide)
  above := by decide
  nearest other hother habove := by
    rw [isProject_twoProjects contents hsecond] at hother
    revert other
    decide

/-- The trees differ in the source of that project alone. -/
theorem differIn_twoProjects :
    DifferIn (twoProjects (fileOf contents) second) (twoProjects (fileOf contents') second) treeRoot
      firstProject where
  isProject_iff project := by
    rw [isProject_twoProjects contents hsecond, isProject_twoProjects contents' hsecond]
  source place hne := by
    obtain rfl : place = firstSource.names := by
      by_contra hplace
      refine hne ?_
      have hplace' : place ≠ ["p".toList, "x.cs".toList] := hplace
      simp only [FileTree.get?, twoProjects, FileTree.lookup_cons_eq, if_neg hplace']
    show some (fileOf contents) ≠ some .directory ∧ some (fileOf contents') ≠ some .directory ∧ _
    exact ⟨by simp [fileOf], by simp [fileOf], by decide, isNearest_twoProjects contents hsecond⟩

end TwoProjects

/-- If the source of one project holds no text, that project is passed over, and the other one
contributes what it does otherwise. -/
theorem discover_isolated_undecodable :
    (twoProjects itemsFile itemsFile).IsWalkable treeRoot ∧
      (twoProjects undecodableFile itemsFile).IsWalkable treeRoot ∧
      DifferIn (twoProjects itemsFile itemsFile) (twoProjects undecodableFile itemsFile) treeRoot
        firstProject ∧
      LinksAgree (twoProjects itemsFile itemsFile) (twoProjects undecodableFile itemsFile) treeRoot
        firstProject ∧
      ∃ projects, Discovers (twoProjects itemsFile itemsFile) treeRoot treeRoot [] projects ∧
        Discovers (twoProjects undecodableFile itemsFile) treeRoot treeRoot [] projects ∧
        contributed (twoProjects undecodableFile itemsFile) treeRoot projects secondProject =
          contributed (twoProjects itemsFile itemsFile) treeRoot projects secondProject ∧
        contributed (twoProjects undecodableFile itemsFile) treeRoot projects firstProject =
          [] := by
  have hsecond : itemsFile = itemsFile ∨ itemsFile = linkToFirst := .inl rfl
  have hwalkable := isWalkable_twoProjects (Utf8.encode itemsSource) hsecond
  have hwalkable' := isWalkable_twoProjects [0xff] hsecond
  have hdiffer := differIn_twoProjects (Utf8.encode itemsSource) [0xff] hsecond
  have hlinks : LinksAgree (twoProjects itemsFile itemsFile) (twoProjects undecodableFile itemsFile)
      treeRoot firstProject := by
    intro project link hproject hlink
    -- There are no links in this tree.
    obtain ⟨target, hget⟩ := hlink.entry
    have hne : link.names ≠ [] := by
      intro hnil
      rw [hnil, FileTree.get?_nil] at hget
      cases hget
    have hmem := (FileTree.mem_entries_iff hne).mpr hget
    simp [twoProjects, itemsFile, fileOf] at hmem
  obtain ⟨projects, -, hprojects, ht, hu, hsame⟩ :=
    @discover_isolated _ _ treeRoot firstProject treeRoot hwalkable hwalkable' (by cbv) (by cbv)
      hdiffer hlinks []
  have hmem : secondProject ∈ projects := by
    rw [hprojects]
    exact (isProject_twoProjects (Utf8.encode itemsSource) hsecond _).mpr (by decide)
  have hbelow : Source.IsBelow (twoProjects undecodableFile itemsFile) sourceFiles firstProject
      firstSource :=
    ⟨⟨firstProject, "x.cs".toList, .top, rfl⟩, by decide, undecodableFile, rfl,
      by simp [undecodableFile, fileOf], fun h => by cases h⟩
  have hread : (Source.read (twoProjects undecodableFile itemsFile) firstSource).isOk = false := by
    cbv
  refine ⟨hwalkable, hwalkable', hdiffer, hlinks, projects, ht, hu, ?_, ?_⟩
  · exact hsame secondProject hmem (by decide)
  · cases hfault : Source.read (twoProjects undecodableFile itemsFile) firstSource with
    | ok source =>
      rw [hfault] at hread
      cases hread
    | error fault =>
      have hnearest : IsNearest (twoProjects undecodableFile itemsFile) treeRoot firstProject
          firstSource := isNearest_twoProjects [0xff] hsecond
      exact (hu.skipped firstProject firstSource fault hnearest hbelow hfault).1

/-- The route of the controller, which is in the source of the first project. -/
def itemsRoute : Discovered where
  kind := .controller
  path := []
  file := "p/x.cs".toList
  line := 1
  controller := "ItemsController".toList

/-- **A link makes a project depend on another one.** Two trees differ only in the source of the
first project, but a source of the second project is a link to it. So the second project contributes
a route in one tree, and nothing in the other one, where the source of the first project holds no
text. -/
theorem contributed_of_link :
    (twoProjects itemsFile linkToFirst).IsWalkable treeRoot ∧
      (twoProjects undecodableFile linkToFirst).IsWalkable treeRoot ∧
      DifferIn (twoProjects itemsFile linkToFirst) (twoProjects undecodableFile linkToFirst)
        treeRoot firstProject ∧
      (∀ contents, projectsOf <$>
          Source.files (twoProjects (fileOf contents) linkToFirst) treeRoot projectFiles =
        .ok [firstProject, secondProject]) ∧
      ResultsIn (scanProjectOrSkip (twoProjects itemsFile linkToFirst) treeRoot
        [firstProject, secondProject] secondProject) (.ok [itemsRoute]) ∧
      ResultsIn (scanProjectOrSkip (twoProjects undecodableFile linkToFirst) treeRoot
        [firstProject, secondProject] secondProject) (.ok []) := by
  have hsecond : linkToFirst = itemsFile ∨ linkToFirst = linkToFirst := .inr rfl
  have hname (first : Entry) :
      projectName (twoProjects first linkToFirst) treeRoot secondProject = .ok "q".toList := by
    cbv
  refine ⟨isWalkable_twoProjects _ hsecond, isWalkable_twoProjects _ hsecond,
    differIn_twoProjects _ _ hsecond, fun contents => projectsOf_twoProjects contents hsecond,
    ?_, ?_⟩
  · have hown : ownFiles (twoProjects itemsFile linkToFirst) [firstProject, secondProject]
        secondProject = .ok [secondSource] := by cbv
    have hread : Source.read (twoProjects itemsFile linkToFirst) secondSource =
        .ok itemsSource := by cbv
    have hclasses : classesIn (twoProjects itemsFile linkToFirst) [secondSource] =
        .ok (classesOf itemsSource secondSource) := by
      unfold classesIn
      rw [List.mapM_cons, hread]
      show Except.ok [classesOf itemsSource secondSource].flatten = _
      rw [List.flatten_singleton]
    have hcontrollers : findControllers (classesOf itemsSource secondSource) =
        [⟨"ItemsController".toList, secondSource, 1, ["ControllerBase".toList], [], []⟩] := by
      decide +kernel
    have hrelative : Source.relative (twoProjects itemsFile linkToFirst) treeRoot secondSource =
        .ok "p/x.cs".toList := by cbv
    have hcontribution : contribution (twoProjects itemsFile linkToFirst) treeRoot
        [firstProject, secondProject] secondProject = .ok [itemsRoute] := by
      rcases contribution_cases (hname itemsFile) hown with
        ⟨bad, hbad, fault, hfault, -⟩ | ⟨-, classes, routes, hfound, hroutes, hwhole, -⟩
      · rw [List.mem_singleton.mp hbad, hread] at hfault
        cases hfault
      · obtain rfl := Except.ok.inj (hclasses.symm.trans hfound)
        rw [hcontrollers, routesOfControllers, List.mapM_cons, hrelative] at hroutes
        rw [hwhole, ← hroutes]
        rfl
    rw [← hcontribution]
    exact resultsIn_scanProjectOrSkip _ _ _ _
  · have hown : ownFiles (twoProjects undecodableFile linkToFirst) [firstProject, secondProject]
        secondProject = .ok [secondSource] := by cbv
    have hread : (Source.read (twoProjects undecodableFile linkToFirst) secondSource).isOk =
        false := by cbv
    have hcontribution : contribution (twoProjects undecodableFile linkToFirst) treeRoot
        [firstProject, secondProject] secondProject = .ok [] := by
      rcases contribution_cases (hname undecodableFile) hown with
        ⟨-, -, -, -, -, hnothing⟩ | ⟨hall, -⟩
      · exact hnothing
      · obtain ⟨source, hsource⟩ := hall secondSource List.mem_cons_self
        rw [hsource] at hread
        cases hread
    rw [← hcontribution]
    exact resultsIn_scanProjectOrSkip _ _ _ _

end Controllers

end RouteAtlas
