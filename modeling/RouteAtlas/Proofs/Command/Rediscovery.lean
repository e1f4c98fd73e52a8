import RouteAtlas.Proofs.Command.Dialogue
import RouteAtlas.Proofs.Discovery.Again
import RouteAtlas.Proofs.Discovery.Integrity

/-!
# Rediscovering

The command that rediscovers takes the kind of project from the stored index. When the index was
discovered a moment ago, that is the framework of the backend that discovered it, by which the
registry finds the same backend (`choose_framework`). So rediscovering then does exactly what
discovering did, and a discovery that is repeated changes nothing (`Store.discoverAndSave_again`):
`rediscover_repeats`.

All of this is said of whole programs, from the words of the command line to the reply and the tree
that is left (`reply_discover`, `reply_rediscover`). In between, discovering with a known backend is
followed once (`run_runDiscover`): the two commands differ only in how they come by the word that
they look up in the registry, and from there on they are the same.

Links can spoil that in three ways (`rediscover_of_odd_links`). The file may take the place of the
very link that its directory was reached through. A source may be a link to the file. And a link may
lead through the directory of the index to a name that is too long, which nobody asks for until that
directory is there.

For each of the three there is a tree in the last part, and the discoveries there are evaluated step
by step: what a walk yields, what each project contributes, and what is saved. In the second tree the
bytes of the index are read as source code, so the scan of its lines is a step of its own.
-/

namespace RouteAtlas.Command

open Dialogue

/-! ## Discovering with a known backend -/

/-- Each of the bundled backends is found by its framework, and looks for sources. -/
theorem choose_bundled :
    ∀ b ∈ Registry.bundled.backends,
      Registry.bundled.choose b.framework none = .ok b ∧ b.scanner ≠ .idle := by
  intro b hb
  rcases List.mem_pair.mp hb with rfl | rfl
  · exact ⟨by cbv, by decide⟩
  · exact ⟨by cbv, by decide⟩

/-- A backend that the registry finds is one of those that are bundled. -/
theorem mem_bundled_of_choose {word : Text} {b : Backend}
    (h : Registry.bundled.choose word none = .ok b) : b ∈ Registry.bundled.backends := by
  unfold Registry.choose at h
  split at h
  · cases h
  · have hget := Except.mapError_eq_ok.mp h
    unfold Registry.get at hget
    dsimp only at hget
    split at hget
    next found hfound =>
      obtain rfl := Except.ok.inj hget
      exact List.mem_of_find?_eq_some hfound
    next => cases hget

/-- It is found by its framework as well. -/
theorem choose_framework {word : Text} {b : Backend}
    (h : Registry.bundled.choose word none = .ok b) :
    Registry.bundled.choose b.framework none = .ok b :=
  (choose_bundled b (mem_bundled_of_choose h)).1

/-- What is printed when an index was saved. -/
def savedLines (app : App) (messages : List Text) (i : Index) : List Text :=
  messages ++
    [[], "Index saved to: ".toList ++ app.store.path.text,
      "Total routes: ".toList ++ Text.ofNat i.routes.length]

/-- What comes of a command that has saved an index, and in which nothing was to be typed. -/
def savedReply (app : App) (messages : List Text) (i : Index) : Reply where
  outcome := .ok 0
  output := ((savedLines app messages i).map (· ++ ['\n'])).flatten
  errors := []
  asked := false

section Discovering

variable {app : App} {t u : FileTree} {b : Backend} {i : Index} {messages : List Text} {word : Text}

/-- For an empty word nothing is chosen, since nothing is selected. -/
theorem isEmpty_of_choose {registry : Registry} (h : registry.choose word none = .ok b) :
    word.isEmpty = false := by
  rcases hempty : word.isEmpty with _ | _
  · rfl
  · rw [Registry.choose, hempty] at h
    cases h

theorem run_runDiscover (s : Session) (hchosen : app.registry.choose word none = .ok b)
    (hsaved : (app.store.discoverAndSave b app.time).run s.tree = (⟨messages, .ok i⟩, u)) :
    (runDiscover app word).run.run s =
      (.ok (), { s with tree := u }.said (savedLines app messages i)) := by
  unfold runDiscover
  simp only [isEmpty_of_choose hchosen, Bool.false_eq_true, if_false, pure_bind, hchosen]
  rw [discoverWith, run_bind, run_onTree, hsaved]
  dsimp only
  rw [run_bind, run_provided, savedLines, ← Session.said_said]
  rfl

/-- A discovery that breaks off at an entry that cannot be looked up ends the program. -/
theorem outcome_runDiscover_of_unlookable {fault : FileFault}
    (hchosen : app.registry.choose word none = .ok b)
    (hfailed : (app.store.discoverAndSave b app.time).run t =
      (⟨messages, .error (.discovery (.unlookable fault))⟩, u)) (input : Text) :
    ((runDiscover app word).reply t input).1.outcome =
      .error (.index (.discovery (.unlookable fault))) := by
  have hrun : (runDiscover app word).run.run ⟨t, input, [], [], false⟩ =
      (.error (.escape (.index (.discovery (.unlookable fault)))),
        { (⟨t, input, [], [], false⟩ : Session) with tree := u }.said messages) := by
    unfold runDiscover
    simp only [isEmpty_of_choose hchosen, Bool.false_eq_true, if_false, pure_bind, hchosen]
    rw [discoverWith, run_bind, run_onTree, hfailed]
    dsimp only
    rw [run_bind, run_provided]
    rfl
  rw [Dialogue.reply, hrun]

/-- What discovering for some word comes to. -/
theorem reply_discover (hroot : t.canonical app.root = .ok app.root) (base : Path)
    (word input : Text) :
    (runProgram app base ["discover".toList, "-t".toList, word]).reply t input =
      (runDiscover app word).reply t input := by
  show (runProgram app base (Verb.discover.name :: ["-t".toList, word])).reply t input = _
  rw [reply, reply, run_runProgram ⟨t, input, [], [], false⟩ base _ _ hroot, run_discover]

/-- Rediscovering is discovering for the kind of project that is stored. -/
theorem reply_rediscover (hroot : t.canonical app.root = .ok app.root) (base : Path) {input : Text}
    (hstored : (storedProject app).run.run ⟨t, input, [], [], false⟩ =
      (.ok word, ⟨t, input, [], [], false⟩)) :
    (runProgram app base ["rediscover".toList]).reply t input =
      (runDiscover app word).reply t input := by
  have hrun : (runRediscover app []).run.run ⟨t, input, [], [], false⟩ =
      (runDiscover app word).run.run ⟨t, input, [], [], false⟩ := by
    show (storedProject app >>= runDiscover app).run.run _ = _
    rw [run_bind, hstored]
  show (runProgram app base (Verb.rediscover.name :: [])).reply t input = _
  rw [reply, reply, run_runProgram ⟨t, input, [], [], false⟩ base _ _ hroot, run_rediscover, hrun]

/-- Discovering with a backend that is found prints what was reported and where the index was
saved. -/
theorem reply_runDiscover (hchosen : app.registry.choose word none = .ok b)
    (hsaved : (app.store.discoverAndSave b app.time).run t = (⟨messages, .ok i⟩, u)) (input : Text) :
    (runDiscover app word).reply t input = (savedReply app messages i, u) := by
  rw [reply, run_runDiscover ⟨t, input, [], [], false⟩ hchosen hsaved]
  simp [savedReply, Session.said]

end Discovering

/-! ## Rediscovering what was discovered -/

/-- The program in a repository, with standard settings and the bundled backends. -/
def repository (place : Place) (resolver : Resolver) (time : Text) : App where
  root := ⟨.slash, place⟩
  settings := .standard
  resolver := resolver
  time := time

variable {t u : FileTree} {place : Place} {time word : Text} {b : Backend} {i : Index}
  {messages : List Text}

section Repository

variable (resolver : Resolver) (hcanonical : t.canonical ⟨.slash, place⟩ = .ok ⟨.slash, place⟩)

include hcanonical

theorem discover_repository (hchosen : Registry.bundled.choose word none = .ok b)
    (hsaved : ((Store.standard ⟨.slash, place⟩).discoverAndSave b time).run t =
      (⟨messages, .ok i⟩, u)) (base : Path) (input : Text) :
    (runProgram (repository place resolver time) base
        ["discover".toList, "-t".toList, word]).reply t input =
      (savedReply (repository place resolver time) messages i, u) := by
  have hroot : t.canonical (repository place resolver time).root =
      .ok (repository place resolver time).root := hcanonical
  have hregistered : (repository place resolver time).registry.choose word none = .ok b := hchosen
  have hstored : ((repository place resolver time).store.discoverAndSave b
      (repository place resolver time).time).run t = (⟨messages, .ok i⟩, u) := hsaved
  rw [reply_discover hroot]
  exact reply_runDiscover hregistered hstored input

theorem rediscover_repository {stored : Index}
    (hload : (Store.standard ⟨.slash, place⟩).load t = .ok stored)
    (hchosen : Registry.bundled.choose stored.project.framework none = .ok b)
    (hsaved : ((Store.standard ⟨.slash, place⟩).discoverAndSave b time).run t =
      (⟨messages, .ok i⟩, u)) (base : Path) (input : Text) :
    (runProgram (repository place resolver time) base ["rediscover".toList]).reply t input =
      (savedReply (repository place resolver time) messages i, u) := by
  have hroot : t.canonical (repository place resolver time).root =
      .ok (repository place resolver time).root := hcanonical
  have hloaded : (repository place resolver time).store.load t = .ok stored := hload
  have hproject : (storedProject (repository place resolver time)).run.run
      ⟨t, input, [], [], false⟩ =
        (.ok stored.project.framework, ⟨t, input, [], [], false⟩) :=
    run_storedProject_of_load _ hloaded
  rw [reply_rediscover hroot base hproject, ← reply_discover hroot base]
  exact discover_repository resolver hcanonical hchosen hsaved base input

/-- A discovery that breaks off when it is repeated ends the program. -/
theorem rediscover_repository_of_unlookable {stored : Index} {fault : FileFault}
    (hload : (Store.standard ⟨.slash, place⟩).load t = .ok stored)
    (hchosen : Registry.bundled.choose stored.project.framework none = .ok b)
    (hfailed : ((Store.standard ⟨.slash, place⟩).discoverAndSave b time).run t =
      (⟨messages, .error (.discovery (.unlookable fault))⟩, u)) (base : Path) (input : Text) :
    ((runProgram (repository place resolver time) base ["rediscover".toList]).reply t
      input).1.outcome = .error (.index (.discovery (.unlookable fault))) := by
  have hroot : t.canonical (repository place resolver time).root =
      .ok (repository place resolver time).root := hcanonical
  have hloaded : (repository place resolver time).store.load t = .ok stored := hload
  have hproject : (storedProject (repository place resolver time)).run.run
      ⟨t, input, [], [], false⟩ =
        (.ok stored.project.framework, ⟨t, input, [], [], false⟩) :=
    run_storedProject_of_load _ hloaded
  have hregistered : (repository place resolver time).registry.choose stored.project.framework
      none = .ok b := hchosen
  have hstored : ((repository place resolver time).store.discoverAndSave b
      (repository place resolver time).time).run t =
        (⟨messages, .error (.discovery (.unlookable fault))⟩, u) := hfailed
  rw [reply_rediscover hroot base hproject]
  exact outcome_runDiscover_of_unlookable hregistered hstored input

/-- Without a stored index nothing is rediscovered, if nothing is typed. -/
theorem rediscover_repository_of_absent {path : Path}
    (hload : (Store.standard ⟨.slash, place⟩).load t = .error (.absent path)) (base : Path) :
    ((runProgram (repository place .asks time) base ["rediscover".toList]).reply t []).1.outcome =
      .ok failure := by
  have hroot : t.canonical (repository place .asks time).root =
      .ok (repository place .asks time).root := hcanonical
  have hloaded : (repository place .asks time).store.load t = .error (.absent path) := hload
  have hproject : (storedProject (repository place .asks time)).run.run ⟨t, [], [], [], false⟩ =
      (.ok [], ⟨t, [], [], [], false⟩) := by
    rw [run_storedProject, hloaded]
  rw [reply_rediscover hroot base hproject]
  rfl

end Repository

/-- **Rediscovering repeats the discovery.** Where discovering for some word has found the backend
and saved an index, the command ends well. There is still a way to the directory of the file unless
a link bears the name of the file. If there is, and if no link to a source leads to something else
now, and if every entry that a walk meets can still be looked up, then the file spells the index,
which is loaded, and rediscovering does what discovering does: it uses the same backend, ends well
and leaves the whole tree exactly as it is, with the file. -/
theorem rediscover_repeats {resolver : Resolver} (hrooted : t.IsRooted) (hnames : t.HasFileNames)
    (hroot : t.status ⟨.slash, place⟩ = .ok (place, .directory))
    (hchosen : Registry.bundled.choose word none = .ok b)
    (hdiscovered : ((Store.standard ⟨.slash, place⟩).discoverAndSave b time).run t =
      (⟨messages, .ok i⟩, u)) (base : Path) (input : Text) :
    (runProgram (repository place resolver time) base
        ["discover".toList, "-t".toList, word]).reply t input =
      (savedReply (repository place resolver time) messages i, u) ∧
    ((∀ link target, t.get? link = some (.link target) →
        link.getLast? ≠ some "index.json".toList) →
      u.isDirectory (Store.standard ⟨.slash, place⟩).path.parent = true) ∧
    (u.isDirectory (Store.standard ⟨.slash, place⟩).path.parent = true →
      Source.LinksAgree t u ⟨.slash, place⟩ b.scanner.endings →
      (∀ names, Source.Meets u Source.ignoredDirectories place names →
        ∃ found, u.status? (Path.below ⟨.slash, place⟩ names) = .ok found) →
      (∃ bytes mode, (Store.standard ⟨.slash, place⟩).file? u = some (bytes, mode) ∧
        DocumentFile.Spells Store.layout (Encode.index i) bytes) ∧
      (Store.standard ⟨.slash, place⟩).load u = .ok i ∧ i.project.framework = b.framework ∧
      (runProgram (repository place resolver time) base ["rediscover".toList]).reply u input =
        (runProgram (repository place resolver time) base
          ["discover".toList, "-t".toList, word]).reply u input ∧
      ∃ messages',
        (runProgram (repository place resolver time) base ["rediscover".toList]).reply u input =
          (savedReply (repository place resolver time) messages' i, u)) := by
  obtain ⟨hversion, hsave⟩ := Store.discoverAndSave_returned (i := i) (by rw [hdiscovered])
  rw [hdiscovered] at hsave
  refine ⟨?_, ?_, ?_⟩
  · exact discover_repository resolver (FileTree.canonical_of_status hroot) hchosen hdiscovered base
      input
  · intro hlinks
    refine Store.isDirectory_of_save hrooted hsave fun link target hlink => ?_
    rw [Store.standard_path, List.getLast?_append_of_ne_nil _ (List.cons_ne_nil _ _)]
    exact hlinks link target hlink
  · intro hdirectory hlinks hlooked
    have hheld := Store.holds_of_save hsave
    rw [Store.Holds, if_pos hdirectory] at hheld
    have hload := Store.load_of_save hsave hversion hdirectory
    obtain ⟨_, hfound⟩ := Store.discovered_of_returned (i := i) (by rw [hdiscovered])
    obtain ⟨-, hframework⟩ := Backend.parts_of_discover hfound
    -- The root is still found under its own path, and the same backend is chosen.
    obtain ⟨-, -, hroot'⟩ := Store.status_of_save hrooted hnames hroot hsave
    have hcanonical : u.canonical ⟨.slash, place⟩ = .ok ⟨.slash, place⟩ :=
      FileTree.canonical_of_status hroot'
    have hrechosen : Registry.bundled.choose i.project.framework none = .ok b := by
      rw [hframework]
      exact choose_framework hchosen
    have hscanner := (choose_bundled b (mem_bundled_of_choose hchosen)).2
    obtain ⟨messages', hagain⟩ := Store.discoverAndSave_again hscanner hrooted hnames hroot
      hdiscovered hlinks hlooked hdirectory
    have hdiscover := discover_repository resolver hcanonical hchosen hagain base input
    have hrediscover := rediscover_repository resolver hcanonical hload hrechosen hagain base input
    exact ⟨hheld, hload, hframework, hrediscover.trans hdiscover.symm, messages', hrediscover⟩

/-- What becomes of the tree of pets when an index is saved. -/
def savedPetTree (bytes : Bytes) : FileTree :=
  (Backend.petTree.put [".apimap".toList] .directory).put [".apimap".toList, "index.json".toList]
    (.file bytes (Files.newMode Backend.petTree))

/-- A walk still goes through it. -/
theorem isWalkable_savedPetTree (bytes : Bytes) : (savedPetTree bytes).IsWalkable ⟨.slash, []⟩ := by
  have hentries : ∀ row ∈ (savedPetTree bytes).entries,
      row.1 = [".apimap".toList, "index.json".toList] ∨ row.1 = [".apimap".toList] ∨
        row.1 = ["a.py".toList] := by
    intro row hrow
    have hlist : (savedPetTree bytes).entries.map Prod.fst =
        [[".apimap".toList, "index.json".toList], [".apimap".toList], ["a.py".toList]] := rfl
    have hmem : row.1 ∈ (savedPetTree bytes).entries.map Prod.fst := List.mem_map_of_mem hrow
    rw [hlist] at hmem
    simpa using hmem
  refine FileTree.isWalkable_of_entries ?_ ?_ ?_ ?_
  · intro row hrow
    rcases hentries row hrow with h | h | h <;> rw [h] <;> cbv
  · intro row hrow
    rcases hentries row hrow with h | h | h <;> rw [h] <;> decide
  · cbv
  · intro row hrow
    rcases hentries row hrow with h | h | h <;> rw [h] <;> cbv

theorem rediscover_repeats_pets :
    Backend.petTree.IsRooted ∧ Backend.petTree.HasFileNames ∧
      Backend.petTree.status ⟨.slash, []⟩ = .ok ([], .directory) ∧
      Registry.bundled.choose "python".toList none = .ok .routers ∧
      ∃ messages messages' i u,
        ((Store.standard ⟨.slash, []⟩).discoverAndSave .routers []).run Backend.petTree =
          (⟨messages, .ok i⟩, u) ∧
        i.routes.map Record.discovered = Backend.petRoutes ∧
        (runProgram (repository [] .asks []) ⟨.slash, []⟩
          ["discover".toList, "-t".toList, "python".toList]).reply Backend.petTree [] =
            (savedReply (repository [] .asks []) messages i, u) ∧
        (runProgram (repository [] .asks []) ⟨.slash, []⟩ ["rediscover".toList]).reply u [] =
            (savedReply (repository [] .asks []) messages' i, u) := by
  have hentries : ∀ row ∈ Backend.petTree.entries, row.1 = ["a.py".toList] ∧
      row.2 = .file (Utf8.encode Backend.petScript) 0o644 := by
    intro row hrow
    rw [Backend.petTree, List.mem_singleton] at hrow
    rw [hrow]
    exact ⟨rfl, rfl⟩
  have hrooted : Backend.petTree.IsRooted := by
    refine FileTree.isRooted_of_entries fun row hrow => ?_
    rw [(hentries row hrow).1]
    rfl
  have hnames : Backend.petTree.HasFileNames := by
    refine FileTree.hasFileNames_of_entries fun row hrow => ?_
    rw [(hentries row hrow).1]
    decide
  have hnolinks : ∀ place target, Backend.petTree.get? place ≠ some (.link target) := by
    intro place target hget
    by_cases hplace : place = []
    · rw [hplace, FileTree.get?_nil] at hget
      cases hget
    · have hfile := (hentries _ ((FileTree.mem_entries_iff hplace).mpr hget)).2
      cases hfile
  have hroot : Backend.petTree.status ⟨.slash, []⟩ = .ok ([], .directory) := by cbv
  have hchosen : Registry.bundled.choose "python".toList none = .ok .routers :=
    (choose_bundled .routers (by decide)).1
  obtain ⟨found, i, hrun, hroutes, hencodable⟩ := Backend.discover_petTree
  obtain ⟨bytes, hbytes⟩ := Store.exists_bytesOf_index hencodable
  have hsave : ((Store.standard ⟨.slash, []⟩).save i).run.run Backend.petTree =
      (.ok (), savedPetTree bytes) := by
    rw [Store.save, DocumentFile.write, Store.standard_path, hbytes]
    cbv
  have hfound : ((Backend.routers.discover Backend.petTree (Store.standard ⟨.slash, []⟩).root
      []).resume none []).1 = .ok i := congrArg Prod.snd hrun
  obtain ⟨messages, hdiscovered⟩ := Store.discoverAndSave_of_found hfound hsave
  obtain ⟨hdiscover, hdirectory, hagain⟩ :=
    rediscover_repeats hrooted hnames hroot hchosen hdiscovered ⟨.slash, []⟩ []
  obtain ⟨-, -, -, -, messages', hrediscover⟩ :=
    hagain (hdirectory fun place target hlink => absurd hlink (hnolinks place target))
      (fun directory name target _ _ hlink => absurd hlink (hnolinks _ target))
      (isWalkable_savedPetTree bytes).looked
  exact ⟨hrooted, hnames, hroot, hchosen, messages, messages', i, savedPetTree bytes, hdiscovered,
    hroutes, hdiscover, hrediscover⟩

/-! ## Sources that change with the index -/

/-- The index of a repository in which the only project was passed over. -/
def passedOverIndex : Index :=
  ⟨schemaVersion, [], ⟨"/".toList, "csharp".toList, "aspnet".toList⟩, [], List.nodup_nil⟩

/-- What the file of that index holds. -/
def passedOverText : Text :=
  '{' :: ("\n  \"version\": 1,\n  \"generatedAt\": \"\",\n  \"project\": \x7b\n    \"root\": \"/\"," ++
    "\n    \"language\": \"csharp\",\n    \"framework\": \"aspnet\"\n  \x7d,\n  \"routes\": []" ++
    "\n\x7d\n").toList

theorem bytesOf_passedOverIndex :
    DocumentFile.bytesOf Store.layout (Encode.index passedOverIndex) =
      .ok (Utf8.encode passedOverText) := by
  unfold passedOverText
  simp only [String.toList_append]
  -- The characters of a string are slow to evaluate, so they are written out first.
  repeat rw [String.toList_ofList]
  cbv

open Store (rootStore selfLinkedTree replacedLinkTree emptyIndex)

section SourceLink

open Controllers (treeRoot itemsFile itemsSource projectFiles projectsOf ownFiles contribution)

/-- A repository with one project, one source of which is a link to the file of the index. -/
def sourceLinkTree : FileTree where
  entries := [(["a.csproj".toList], .file [] 0o644),
    (["b.cs".toList], itemsFile),
    (["c.cs".toList], .link ".apimap/index.json".toList)]
  distinct := by decide

/-- What becomes of that tree when an index is saved. -/
def indexedLinkTree (bytes : Bytes) : FileTree :=
  (sourceLinkTree.put [".apimap".toList] .directory).put [".apimap".toList, "index.json".toList]
    (.file bytes (Files.newMode sourceLinkTree))

/-- The source that is a file. -/
def plainSource : Path := ⟨.slash, ["b.cs".toList]⟩

/-- The source that is a link. -/
def linkedSource : Path := ⟨.slash, ["c.cs".toList]⟩

/-- The route of the controller in the other source. -/
def plainRoute : Discovered where
  kind := .controller
  path := []
  file := "b.cs".toList
  line := 1
  controller := "ItemsController".toList

/-- At first the link leads nowhere, so the project is passed over. -/
theorem contribution_sourceLinkTree :
    contribution sourceLinkTree treeRoot [treeRoot] treeRoot = .ok [] := by
  have hname : Controllers.projectName sourceLinkTree treeRoot treeRoot = .ok [] := by cbv
  have hown : ownFiles sourceLinkTree [treeRoot] treeRoot = .ok [plainSource, linkedSource] := by
    cbv
  have hread : (Source.read sourceLinkTree linkedSource).isOk = false := by cbv
  rcases Controllers.contribution_cases hname hown with ⟨-, -, -, -, -, hnothing⟩ | ⟨hall, -⟩
  · exact hnothing
  · obtain ⟨source, hsource⟩ := hall linkedSource (by decide)
    rw [hsource] at hread
    cases hread

/-! The way to the file of the index does not depend on its bytes, and there are many of them. So
what is evaluated below holds of any bytes. -/

theorem projectName_indexedLinkTree (bytes : Bytes) :
    Controllers.projectName (indexedLinkTree bytes) treeRoot treeRoot = .ok [] := by
  cbv

theorem ownFiles_indexedLinkTree (bytes : Bytes) :
    ownFiles (indexedLinkTree bytes) [treeRoot] treeRoot = .ok [plainSource, linkedSource] := by
  cbv

theorem read_plainSource (bytes : Bytes) :
    Source.read (indexedLinkTree bytes) plainSource = .ok itemsSource := by
  cbv

theorem relative_plainSource (bytes : Bytes) :
    Source.relative (indexedLinkTree bytes) treeRoot plainSource = .ok "b.cs".toList := by
  cbv

theorem read_link_of_indexedLinkTree (bytes : Bytes) :
    Files.read (indexedLinkTree bytes) linkedSource = .ok bytes := by
  cbv

/-- Once the index was saved, the link leads to its text. -/
theorem read_linkedSource :
    Source.read (indexedLinkTree (Utf8.encode passedOverText)) linkedSource =
      .ok passedOverText := by
  have hdecoded : Utf8.decodeMarked (Utf8.encode passedOverText) = .ok passedOverText :=
    Utf8.decodeMarked_encode (by decide) _
  have hunified : Text.unifyNewlines passedOverText = passedOverText := by
    refine Text.unifyNewlines_eq_self ?_
    unfold passedOverText
    simp only [String.toList_append]
    repeat rw [String.toList_ofList]
    decide +kernel
  generalize Utf8.encode passedOverText = bytes at hdecoded ⊢
  rw [Source.read_eq_ok (read_link_of_indexedLinkTree bytes) hdecoded, hunified]

/-- So nothing is wrong with the project any more. -/
theorem contribution_indexedLinkTree :
    contribution (indexedLinkTree (Utf8.encode passedOverText)) treeRoot [treeRoot] treeRoot =
      .ok [plainRoute] := by
  have hlinked := read_linkedSource
  generalize Utf8.encode passedOverText = bytes at hlinked ⊢
  have hplain := read_plainSource bytes
  have hclasses : Controllers.classesIn (indexedLinkTree bytes) [plainSource, linkedSource] =
      .ok (Controllers.classesOf itemsSource plainSource ++
        Controllers.classesOf passedOverText linkedSource) := by
    unfold Controllers.classesIn
    rw [List.mapM_cons, hplain, List.mapM_cons, hlinked]
    show Except.ok [_, _].flatten = _
    rw [List.flatten_cons, List.flatten_singleton]
  have hcontrollers : Controllers.findControllers (Controllers.classesOf itemsSource plainSource ++
      Controllers.classesOf passedOverText linkedSource) =
        [⟨"ItemsController".toList, plainSource, 1, ["ControllerBase".toList], [], []⟩] := by
    unfold itemsSource passedOverText
    simp only [String.toList_append]
    repeat rw [String.toList_ofList]
    decide +kernel
  rcases Controllers.contribution_cases (projectName_indexedLinkTree bytes)
    (ownFiles_indexedLinkTree bytes) with
    ⟨bad, hbad, fault, hfault, -⟩ | ⟨-, classes, routes, hfound, hroutes, hwhole, -⟩
  · rcases List.mem_pair.mp hbad with rfl | rfl
    · rw [hplain] at hfault
      cases hfault
    · rw [hlinked] at hfault
      cases hfault
  · obtain rfl := Except.ok.inj (hclasses.symm.trans hfound)
    rw [hcontrollers, Controllers.routesOfControllers, List.mapM_cons,
      relative_plainSource] at hroutes
    rw [hwhole, ← hroutes]
    rfl

theorem files_sourceLinkTree :
    Source.files sourceLinkTree treeRoot projectFiles = .ok [⟨.slash, ["a.csproj".toList]⟩] := by
  cbv

theorem files_indexedLinkTree (bytes : Bytes) :
    Source.files (indexedLinkTree bytes) treeRoot projectFiles =
      .ok [⟨.slash, ["a.csproj".toList]⟩] := by
  cbv

theorem projectsOf_sourceLinkTree :
    projectsOf [⟨.slash, ["a.csproj".toList]⟩] = [treeRoot] := by
  cbv

/-- The first time, an index of no routes is discovered and saved there. -/
theorem discoverAndSave_sourceLinkTree :
    (∃ messages, (rootStore.discoverAndSave .controllers []).run sourceLinkTree =
      (⟨messages, .ok passedOverIndex⟩, indexedLinkTree (Utf8.encode passedOverText))) ∧
    rootStore.load (indexedLinkTree (Utf8.encode passedOverText)) = .ok passedOverIndex := by
  have hfound : ((Backend.controllers.discover sourceLinkTree rootStore.root []).resume none
      []).1 = .ok passedOverIndex :=
    Controllers.result_discover_of_project (FileTree.isDirect_nil _).canonical_eq
      files_sourceLinkTree projectsOf_sourceLinkTree contribution_sourceLinkTree []
  have hbytes := bytesOf_passedOverIndex
  generalize Utf8.encode passedOverText = bytes at hbytes ⊢
  have hsave : (rootStore.save passedOverIndex).run.run sourceLinkTree =
      (.ok (), indexedLinkTree bytes) := by
    rw [Store.save, DocumentFile.write, hbytes, Store.rootStore_path]
    cbv
  have hdirectory : (indexedLinkTree bytes).isDirectory rootStore.path.parent = true := by
    rw [Store.rootStore_path]
    cbv
  exact ⟨Store.discoverAndSave_of_found hfound hsave, Store.load_of_save hsave rfl hdirectory⟩

/-- The second time, it is an index with a route. -/
theorem discoverAndSave_indexedLinkTree :
    ∃ messages i u, (rootStore.discoverAndSave .controllers []).run
        (indexedLinkTree (Utf8.encode passedOverText)) = (⟨messages, .ok i⟩, u) ∧
      rootStore.load u = .ok i ∧ i.routes.map Record.discovered = [plainRoute] := by
  have hsound : ∀ d ∈ [plainRoute], d.IsSound := by
    intro d hd
    obtain rfl : d = plainRoute := by simpa using hd
    exact ⟨by decide, _, rfl⟩
  obtain ⟨i, hbuild⟩ := exists_buildIndex_of_nodup hsound (by decide) (List.nodup_singleton _)
    ⟨treeRoot.text, Backend.controllers.language, Backend.controllers.framework⟩ []
  have hencodable : Json.isEncodable (Encode.index i) = true := by
    rw [isEncodable_of_buildIndex hbuild]
    decide
  obtain ⟨bytes, hbytes⟩ := Store.exists_bytesOf_index hencodable
  have hcontribution := contribution_indexedLinkTree
  generalize Utf8.encode passedOverText = old at hcontribution ⊢
  have hfound : ((Backend.controllers.discover (indexedLinkTree old) rootStore.root []).resume none
      []).1 = .ok i := by
    have hcanonical : (indexedLinkTree old).canonical treeRoot = .ok treeRoot :=
      (FileTree.isDirect_nil _).canonical_eq
    have hresult := Controllers.result_discover_of_project hcanonical (files_indexedLinkTree old)
      projectsOf_sourceLinkTree hcontribution []
    rw [hbuild] at hresult
    exact hresult
  obtain ⟨u, hsave, hdirectory⟩ : ∃ u,
      (rootStore.save i).run.run (indexedLinkTree old) = (.ok (), u) ∧
        u.isDirectory rootStore.path.parent = true := by
    rw [Store.save, DocumentFile.write, hbytes, Store.rootStore_path]
    exact ⟨_, by cbv, by cbv⟩
  obtain ⟨messages, hdiscovered⟩ := Store.discoverAndSave_of_found hfound hsave
  obtain ⟨hversion, -⟩ := Store.discoverAndSave_returned (i := i) (by rw [hdiscovered])
  exact ⟨messages, i, u, hdiscovered, Store.load_of_save hsave hversion hdirectory,
    map_discovered_of_recordsFrom (recordsFrom_of_buildIndex hbuild)⟩

end SourceLink

section LongLink

/-- A repository with a link that leads through the directory of the index to a name that is too
long. -/
def longLinkTree : FileTree where
  entries := [(["x".toList], .link (".apimap/../".toList ++ List.replicate 256 'y'))]
  distinct := by decide

/-- What becomes of that tree when an index is saved. -/
def indexedLongLinkTree (bytes : Bytes) : FileTree :=
  (longLinkTree.put [".apimap".toList] .directory).put [".apimap".toList, "index.json".toList]
    (.file bytes (Files.newMode longLinkTree))

/-- What a walk breaks off with there. -/
def longLinkFault : FileFault where
  reason := .nameTooLong
  path := ⟨.slash, ["x".toList]⟩

-- The name that is too long is taken apart character by character.
set_option maxRecDepth 4096 in
/-- At first the link leads nowhere, for lack of the directory. -/
theorem files_longLinkTree : Source.files longLinkTree ⟨.slash, []⟩ Routers.scripts = .ok [] := by
  cbv

set_option maxRecDepth 4096 in
/-- Once the index was saved, the name is asked for. -/
theorem walk_indexedLongLinkTree (bytes : Bytes) :
    Source.walk (indexedLongLinkTree bytes) ⟨.slash, []⟩ Routers.scripts =
      .ok ⟨[], some longLinkFault⟩ := by
  cbv

/-- So discovering it anew ends there. -/
theorem discoverAndSave_indexedLongLinkTree (bytes : Bytes) :
    ∃ messages, (rootStore.discoverAndSave .routers []).run (indexedLongLinkTree bytes) =
      (⟨messages, .error (.discovery (.unlookable longLinkFault))⟩, indexedLongLinkTree bytes) := by
  have hcanonical : (indexedLongLinkTree bytes).canonical ⟨.slash, []⟩ = .ok ⟨.slash, []⟩ :=
    (FileTree.isDirect_nil _).canonical_eq
  have hrun : (Backend.routers.discover (indexedLongLinkTree bytes) rootStore.root []).resume none
      [] = (.error (.unlookable longLinkFault), Scanner.opening .routers) :=
    Backend.resumeIn_discover_routers hcanonical (walk_indexedLongLinkTree bytes) rfl
  rw [Store.run_discoverAndSave, hrun]
  exact ⟨_, rfl⟩

set_option maxRecDepth 4096 in
theorem save_longLinkTree {bytes : Bytes}
    (h : DocumentFile.bytesOf Store.layout (Encode.index emptyIndex) = .ok bytes) :
    (rootStore.save emptyIndex).run.run longLinkTree = (.ok (), indexedLongLinkTree bytes) ∧
      (indexedLongLinkTree bytes).isDirectory rootStore.path.parent = true := by
  rw [Store.save, DocumentFile.write, Store.rootStore_path, h]
  exact ⟨by cbv, by cbv⟩

end LongLink

/-- **Three ways in which rediscovering does not repeat a discovery.** The file can take the place
of a link that its directory was reached through; then there is no stored index, and rediscovering
asks for the kind of project. A source can be a link to the file; then the file changes what is
discovered. And a link that led nowhere can lead to a name that is too long; then rediscovering
breaks off. -/
theorem rediscover_of_odd_links :
    (∃ messages u,
      (runProgram (repository [] .asks []) ⟨.slash, []⟩
        ["discover".toList, "-t".toList, "python".toList]).reply selfLinkedTree [] =
          (savedReply (repository [] .asks []) messages emptyIndex, u) ∧
      ((runProgram (repository [] .asks []) ⟨.slash, []⟩ ["rediscover".toList]).reply u
        []).1.outcome = .ok failure) ∧
    (∃ messages messages' i i' u u',
      (runProgram (repository [] .asks []) ⟨.slash, []⟩
        ["discover".toList, "-t".toList, "aspnet".toList]).reply sourceLinkTree [] =
          (savedReply (repository [] .asks []) messages i, u) ∧
      (runProgram (repository [] .asks []) ⟨.slash, []⟩ ["rediscover".toList]).reply u [] =
          (savedReply (repository [] .asks []) messages' i', u') ∧
      rootStore.load u = .ok i ∧ rootStore.load u' = .ok i' ∧
      i.routes = [] ∧ i'.routes.map Record.discovered = [plainRoute]) ∧
    ∃ messages u,
      (runProgram (repository [] .asks []) ⟨.slash, []⟩
        ["discover".toList, "-t".toList, "python".toList]).reply longLinkTree [] =
          (savedReply (repository [] .asks []) messages emptyIndex, u) ∧
      ((runProgram (repository [] .asks []) ⟨.slash, []⟩ ["rediscover".toList]).reply u
        []).1.outcome = .error (.index (.discovery (.unlookable longLinkFault))) := by
  refine ⟨?_, ?_, ?_⟩
  · have hencodable : Json.isEncodable (Encode.index emptyIndex) = true := rfl
    obtain ⟨bytes, hbytes⟩ := Store.exists_bytesOf_index hencodable
    have hfiles : Source.files selfLinkedTree ⟨.slash, []⟩ Routers.scripts = .ok [] := by cbv
    have hfound : ((Backend.routers.discover selfLinkedTree rootStore.root []).resume none []).1 =
        .ok emptyIndex := Store.resume_discover_of_no_scripts hfiles
    obtain ⟨messages, hdiscovered⟩ := Store.discoverAndSave_of_found hfound
      (Store.save_selfLinkedTree hbytes)
    have hchosen : Registry.bundled.choose "python".toList none = .ok .routers :=
      (choose_bundled .routers (by decide)).1
    -- The file has taken the place of the link that its own directory was reached through.
    have habsent : rootStore.isPresent (replacedLinkTree bytes) = .ok false := by
      unfold Store.isPresent
      rw [Store.rootStore_path]
      cbv
    have hload : rootStore.load (replacedLinkTree bytes) = .error (.absent rootStore.path) := by
      rw [Store.load, habsent]
      rfl
    refine ⟨messages, replacedLinkTree bytes, ?_, ?_⟩
    · exact discover_repository .asks (FileTree.isDirect_nil _).canonical_eq hchosen hdiscovered _ []
    · exact rediscover_repository_of_absent (FileTree.isDirect_nil _).canonical_eq hload _
  · obtain ⟨⟨messages, hdiscovered⟩, hload⟩ := discoverAndSave_sourceLinkTree
    obtain ⟨messages', i, u, hagain, hloadAgain, hroutes⟩ := discoverAndSave_indexedLinkTree
    have hchosen : Registry.bundled.choose "aspnet".toList none = .ok .controllers :=
      (choose_bundled .controllers (by decide)).1
    generalize indexedLinkTree (Utf8.encode passedOverText) = v at hdiscovered hload hagain
    refine ⟨messages, messages', passedOverIndex, i, v, u, ?_, ?_, hload, hloadAgain, rfl, hroutes⟩
    · exact discover_repository .asks (FileTree.isDirect_nil _).canonical_eq hchosen hdiscovered _ []
    · exact rediscover_repository .asks (FileTree.isDirect_nil _).canonical_eq hload hchosen
        hagain _ []
  · have hencodable : Json.isEncodable (Encode.index emptyIndex) = true := rfl
    obtain ⟨bytes, hbytes⟩ := Store.exists_bytesOf_index hencodable
    obtain ⟨hsave, hdirectory⟩ := save_longLinkTree hbytes
    have hfound : ((Backend.routers.discover longLinkTree rootStore.root []).resume none []).1 =
        .ok emptyIndex := Store.resume_discover_of_no_scripts files_longLinkTree
    obtain ⟨messages, hdiscovered⟩ := Store.discoverAndSave_of_found hfound hsave
    obtain ⟨messages', hfailed⟩ := discoverAndSave_indexedLongLinkTree bytes
    have hload := Store.load_of_save hsave rfl hdirectory
    have hchosen : Registry.bundled.choose "python".toList none = .ok .routers :=
      (choose_bundled .routers (by decide)).1
    refine ⟨messages, indexedLongLinkTree bytes, ?_, ?_⟩
    · exact discover_repository .asks (FileTree.isDirect_nil _).canonical_eq hchosen hdiscovered _ []
    · exact rediscover_repository_of_unlookable .asks (FileTree.isDirect_nil _).canonical_eq hload
        hchosen hfailed _ []

end RouteAtlas.Command
