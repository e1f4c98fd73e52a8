import RouteAtlas.Proofs.Discovery.Run
import RouteAtlas.Proofs.Discovery.Source

/-!
# Using a store

A store is used in a session: its index is loaded, or discovered where there is none, or discovered
anew, in any order and with any outcome. Each of these leaves the tree alone, or saves an index that
was discovered, or fails in saving one (`actStep_cases`), so a session is a run of saves and what is
known of those holds of it: `Coherent`. Its file is the one that was there at first until an index
has been discovered, and from then on it spells the index that was discovered last
(`coherent_runActions`).

The store is the one of a repository, with standard settings: the directory of the index is the only
one that a discovery has to make, and nothing is found in a new directory
(`file?_withDirectory`).

That loading and discovering agree is a matter of the file alone. Where it is there, it is loaded
and nothing is discovered, whatever backend is selected; where it is not, an index is discovered,
and as long as there is a way to the file it is loaded the next time (`loadOrDiscover_again`). Two
trees show why the way has to be asked for (`loadOrDiscover_of_odd_paths`): the file may replace the
link that leads to its directory, and the path of the index may be too long where that of the root
is not.
-/

namespace RouteAtlas.Store

/-! ## What there is to do -/

/-- What is done with a store. -/
inductive Action where
  | load
  | loadOrDiscover (registry : Registry) (selected : Option Backend) (time : Text)
  | discoverAndSave (b : Backend) (time : Text) (cancelAfter : Option Nat)

/-- Does something with a store. -/
def act (store : Store) : Action → StateM FileTree (Provision CodePoint)
  | .load => do pure { result := (store.load (← get)).mapError .load }
  | .loadOrDiscover registry selected time => store.loadOrDiscover registry selected time
  | .discoverAndSave b time cancelAfter =>
    Provision.coded <$> store.discoverAndSave b time cancelAfter

/-- What is provided comes from a discovery. -/
def discovers (store : Store) (tree : FileTree) : Action → Bool
  | .load => false
  | .loadOrDiscover .. =>
    match store.isPresent tree with
    | .ok present => !present
    | .error _ => false
  | .discoverAndSave .. => true

/-- One more action. An index that is provided by a discovery is the last one from then on. -/
def actStep (store : Store) (run : SaveRun) (action : Action) : SaveRun :=
  let (provision, tree) := (store.act action).run run.tree
  match store.discovers run.tree action, provision.result with
  | true, .ok i => ⟨some i, tree⟩
  | _, _ => ⟨run.last, tree⟩

/-- Actions one after the other. -/
def runActions (store : Store) (t : FileTree) (actions : List Action) : SaveRun :=
  actions.foldl store.actStep ⟨none, t⟩

/-- The file of the index, with its permissions. -/
def file? (store : Store) (tree : FileTree) : Option (Bytes × Nat) :=
  match tree.status store.path with
  | .ok (_, .file bytes mode) => some (bytes, mode)
  | _ => none

variable {store : Store} {t u : FileTree} {run : SaveRun} {i : Index CodePoint}

/-! ## One action -/

/-- There is an index exactly if there is its file. -/
theorem isPresent_eq_true_iff : store.isPresent t = .ok true ↔ store.file? t ≠ none := by
  unfold isPresent file? FileTree.status?
  cases hstatus : t.status store.path with
  | error fault =>
    by_cases habsent : fault.reason.meansAbsent = true <;>
      simp [habsent, Except.mapError, bind, Except.bind, pure, Except.pure]
  | ok found =>
    obtain ⟨place, entry⟩ := found
    cases entry <;> simp [Except.mapError, bind, Except.bind, pure, Except.pure]

/-- An index is loaded only if there is one. -/
theorem isPresent_of_load (h : store.load t = .ok i) : store.isPresent t = .ok true := by
  rw [load] at h
  obtain ⟨present, hpresent, h⟩ := Except.bind_eq_ok.mp h
  cases present with
  | false => cases h
  | true => exact hpresent

/-- An index that is there is loaded, and one that is not is discovered by the selected backend. -/
theorem run_loadOrDiscover (store : Store) (registry : Registry) (selected : Option Backend)
    (time : Text) (t : FileTree) :
    (store.loadOrDiscover registry selected time).run t =
      match store.isPresent t with
      | .error fault => (⟨[], .error (.load fault)⟩, t)
      | .ok true => (⟨[], (store.load t).mapError .load⟩, t)
      | .ok false =>
        match selected with
        | none => (⟨[], .error (.choice .nothingSelected)⟩, t)
        | some b => (Provision.coded <$> store.discoverAndSave b time).run t := by
  unfold loadOrDiscover
  rw [StateT.run_bind, StateT.run_get]
  show StateT.run _ t = _
  cases store.isPresent t with
  | error fault => rfl
  | ok present =>
    cases present with
    | true => rfl
    | false => cases selected <;> rfl

/-- An action is a save of an index of the current version, or leaves everything as it was. -/
theorem actStep_cases (store : Store) (run : SaveRun) (action : Action) :
    store.actStep run action = run ∨
      ∃ i, i.version = schemaVersion ∧ store.actStep run action = store.saveStep run i := by
  -- Of both actions that discover something, what matters is the discovery that is stored.
  have hdiscovery (b : Backend) (time : Text) (cancelAfter : Option Nat) (action : Action)
      (hrun : (store.act action).run run.tree =
        (Provision.coded <$> store.discoverAndSave b time cancelAfter).run run.tree)
      (hdiscovers : store.discovers run.tree action = true) :
      store.actStep run action = run ∨
        ∃ i, i.version = schemaVersion ∧ store.actStep run action = store.saveStep run i := by
    unfold actStep
    rw [hrun, hdiscovers, StateT.run_map]
    rcases discoverAndSave_cases store b time cancelAfter run.tree with
      ⟨messages, fault, hend⟩ | ⟨messages, i, u, hversion, ⟨fault, hsave, hend⟩ | ⟨hsave, hend⟩⟩
    · rw [hend]
      exact .inl rfl
    · rw [hend]
      exact .inr ⟨i, hversion, by rw [saveStep, hsave]; rfl⟩
    · rw [hend]
      exact .inr ⟨i, hversion, by rw [saveStep, hsave]; rfl⟩
  cases action with
  | load => exact .inl rfl
  | discoverAndSave b time cancelAfter => exact hdiscovery b time cancelAfter _ rfl rfl
  | loadOrDiscover registry selected time =>
    have hrun := run_loadOrDiscover store registry selected time run.tree
    cases hpresent : store.isPresent run.tree with
    | error fault =>
      left
      rw [hpresent] at hrun
      unfold actStep act discovers
      rw [hrun, hpresent]
    | ok present =>
      rw [hpresent] at hrun
      cases present with
      | true =>
        left
        unfold actStep act discovers
        rw [hrun, hpresent]
        rfl
      | false =>
        cases selected with
        | none =>
          left
          unfold actStep act discovers
          rw [hrun, hpresent]
          rfl
        | some b =>
          refine hdiscovery b time none _ hrun ?_
          rw [discovers, hpresent]
          rfl

/-! ## The file of the index -/

/-- There is no file where the way of the path ends below new directories. -/
theorem file?_of_endsBelow (base : Place) (hlookable : FileTree.IsLookable store.path)
    (h : FileTree.EndsBelow base
      (t.follow .followed FileTree.linkLimit [] store.path.names)) :
    store.file? t = none := by
  unfold file?
  rw [FileTree.status_of_isLookable hlookable]
  generalize t.follow .followed FileTree.linkLimit [] store.path.names = result at h
  obtain reason | ⟨place, entry⟩ | ⟨directory, name⟩ := result
  · rfl
  · obtain ⟨-, rfl⟩ := h
    rfl
  · rfl

/-- A new directory for the file holds no file. -/
theorem file?_withDirectory (hrooted : t.IsRooted) (hnames : store.path.parent.names ≠ [])
    (hroot : t.isDirectory store.path.parent.parent = true)
    (hname : FileTree.IsTame store.path.name) :
    store.file? (Files.withDirectory t store.path.parent) = store.file? t := by
  rcases Files.withDirectory_of_isDirectory_parent hrooted hnames hroot with
    hsame | ⟨directory, name, hlocate, hmade⟩
  · rw [hsame]
  · rw [hmade]
    by_cases hlookable : FileTree.IsLookable store.path
    · have hfollow := (FileTree.locate_eq_ok hlocate).2
      have hgrown := FileTree.grownAt_put (Files.concat_ne_nil directory name) hrooted
        (FileTree.follow_vacant hfollow).2
      obtain ⟨links, hgo⟩ := FileTree.follow_grown hgrown hfollow
      obtain ⟨hafter, hbefore⟩ := hgo .followed [store.path.name]
      have hconcat : store.path.parent.names ++ [store.path.name] = store.path.names := by
        have hne : store.path.names ≠ [] := fun hnil => hnames (by rw [Path.parent, hnil]; rfl)
        rw [Path.parent, Path.name, List.getLastD_eq_getLast?, List.getLast?_eq_some_getLast hne]
        exact List.dropLast_append_getLast hne
      rw [hconcat] at hafter hbefore
      -- Behind the new directory there is nothing, and before, nothing was found at all.
      rw [file?_of_endsBelow (directory ++ [name]) hlookable (by
          rw [hafter]
          exact FileTree.follow_below hgrown List.prefix_rfl (by simpa using hname)),
        file?_of_endsBelow (directory ++ [name]) hlookable (by
          rw [hbefore (by simp)]
          exact .inl rfl)]
    · unfold file?
      rw [FileTree.status, FileTree.status, FileTree.locate_of_not_isLookable hlookable _ t _
        .followed]

/-- The file spells the index, as long as there is a way to its directory. -/
def Holds (store : Store) (tree : FileTree) (i : Index CodePoint) : Prop :=
  if tree.isDirectory store.path.parent then
    ∃ bytes mode, store.file? tree = some (bytes, mode) ∧
      DocumentFile.Spells layout (Encode.index i) bytes
  else store.file? tree = none

/-- An index that was saved is held. -/
theorem holds_of_replacedAt {bytes : Bytes} {mode : Nat} {temporary : Place} {spot : Spot}
    (hbytes : DocumentFile.bytesOf layout (Encode.index i) = .ok bytes)
    (h : Files.ReplacedAt t store.path mode temporary spot) :
    store.Holds (t.put spot.place (.file bytes mode)) i := by
  unfold Holds file?
  rcases h.status bytes with ⟨hdirectory, hstatus⟩ | ⟨hdirectory, hstatus, -⟩
  · rw [if_pos hdirectory, hstatus]
    exact ⟨bytes, mode, rfl, DocumentFile.spells_of_bytesOf hbytes⟩
  · rw [if_neg (by simp [hdirectory]), hstatus]

/-- After a save that returned, the index is held. -/
theorem holds_of_save (h : (store.save i).run.run t = (.ok (), u)) : store.Holds u i := by
  obtain ⟨bytes, mode, temporary, spot, hbytes, hreplaced, rfl⟩ := exists_replacedAt_of_save h
  exact holds_of_replacedAt hbytes hreplaced

/-! ## Sessions -/

/-- What is known along a session that started with the tree `t`. -/
structure Coherent (store : Store) (t : FileTree) (run : SaveRun) : Prop where
  sound : Sound store t run
  current : ∀ i, run.last = some i → i.version = schemaVersion
  held : ∀ i, run.last = some i → store.Holds run.tree i
  /-- Before anything was discovered, there is at most the directory that was made for it. -/
  untouched : run.last = none →
    run.tree = t ∨ run.tree = Files.withDirectory t store.path.parent

/-- A save of an index of the current version keeps a session coherent. -/
theorem Coherent.save (h : Coherent store t run) (hversion : i.version = schemaVersion)
    (hagain : Files.withDirectory (Files.withDirectory t store.path.parent) store.path.parent =
      Files.withDirectory t store.path.parent) :
    Coherent store t (store.saveStep run i) := by
  have hsound := h.sound.step i
  rcases save_cases store i run.tree with
    ⟨fault, hrun⟩ | ⟨bytes, mode, temporary, spot, hbytes, hreplaced, hrun⟩
  · -- Nothing was saved, but the directory may be new: after an index was saved, it is not.
    have hstep : store.saveStep run i =
        ⟨run.last, Files.withDirectory run.tree store.path.parent⟩ := by
      rw [saveStep, hrun]
    rw [hstep] at hsound ⊢
    refine ⟨hsound, h.current, ?_, ?_⟩
    · intro j hj
      show store.Holds (Files.withDirectory run.tree store.path.parent) j
      rw [(h.sound.saved j hj).1]
      exact h.held j hj
    · intro hlast
      right
      show Files.withDirectory run.tree store.path.parent = _
      rcases h.untouched hlast with hsame | hmade
      · rw [hsame]
      · rw [hmade, hagain]
  · have hstep : store.saveStep run i =
        ⟨some i, (Files.withDirectory run.tree store.path.parent).put spot.place
          (.file bytes mode)⟩ := by
      rw [saveStep, hrun]
    rw [hstep] at hsound ⊢
    refine ⟨hsound, ?_, ?_, ?_⟩
    · intro j hj
      obtain rfl : i = j := Option.some.inj hj
      exact hversion
    · intro j hj
      obtain rfl : i = j := Option.some.inj hj
      exact holds_of_replacedAt hbytes hreplaced
    · intro hlast
      cases hlast

/-- An action keeps a session coherent. -/
theorem Coherent.step (h : Coherent store t run) (action : Action)
    (hagain : Files.withDirectory (Files.withDirectory t store.path.parent) store.path.parent =
      Files.withDirectory t store.path.parent) :
    Coherent store t (store.actStep run action) := by
  rcases actStep_cases store run action with hsame | ⟨i, hversion, hstep⟩
  · rw [hsame]
    exact h
  · rw [hstep]
    exact h.save hversion hagain

/-- A session is coherent all along. -/
theorem coherent_runActions (store : Store) (hrooted : t.IsRooted)
    (hagain : Files.withDirectory (Files.withDirectory t store.path.parent) store.path.parent =
      Files.withDirectory t store.path.parent) (actions : List Action) :
    Coherent store t (store.runActions t actions) := by
  have hstart : Coherent store t ⟨none, t⟩ :=
    { sound := sound_runSaves store hrooted []
      current := fun i hi => by cases hi
      held := fun i hi => by cases hi
      untouched := fun _ => .inl rfl }
  unfold runActions
  -- The induction is on the actions that are left, from any session that is coherent so far.
  generalize (⟨none, t⟩ : SaveRun) = run at hstart ⊢
  induction actions generalizing run with
  | nil => exact hstart
  | cons action actions ih => exact ih _ (hstart.step action hagain)

/-! ## The store of a repository -/

/-- The store of a repository, with standard settings. -/
def standard (root : Path) : Store := ⟨root, .standard⟩

theorem standard_path (root : Path) :
    (standard root).path = ⟨root.root, root.names ++ [".apimap".toList, "index.json".toList]⟩ := by
  have hdirectory : Path.ofText Settings.standard.indexDirectory =
      ⟨.relative, [".apimap".toList]⟩ := by decide +kernel
  have hfile : Path.ofText Settings.standard.indexFile =
      ⟨.relative, ["index.json".toList]⟩ := by decide +kernel
  unfold path Settings.indexPath
  rw [show (standard root).settings = .standard from rfl, hdirectory, hfile]
  simp [Path.join, Path.isAbsolute, standard]

theorem standard_path_parent (root : Path) :
    (standard root).path.parent = ⟨root.root, root.names ++ [".apimap".toList]⟩ := by
  rw [standard_path, Path.parent, List.dropLast_append_of_ne_nil (List.cons_ne_nil _ _)]
  rfl

theorem standard_path_parent_parent (root : Path) : (standard root).path.parent.parent = root := by
  rw [standard_path_parent, Path.parent, List.dropLast_concat]

theorem standard_name (root : Path) : (standard root).path.name = "index.json".toList := by
  rw [standard_path, Path.name, List.getLastD_eq_getLast?,
    List.getLast?_append_of_ne_nil _ (List.cons_ne_nil _ _)]
  rfl

/-- In a repository, a session is coherent, and the file is the one that was there at first until an
index has been discovered. -/
theorem coherent_standard (root : Path) (hrooted : t.IsRooted) (hroot : t.isDirectory root = true)
    (actions : List Action) :
    Coherent (standard root) t ((standard root).runActions t actions) ∧
      (standard root).file? (Files.withDirectory t (standard root).path.parent) =
        (standard root).file? t := by
  have hhouse : t.isDirectory (standard root).path.parent.parent = true := by
    rw [standard_path_parent_parent]
    exact hroot
  have hnames : (standard root).path.parent.names ≠ [] := by
    rw [standard_path_parent]
    exact List.append_ne_nil_of_right_ne_nil _ (List.cons_ne_nil _ _)
  have hname : FileTree.IsTame (standard root).path.name := by
    rw [standard_name]
    exact ⟨by decide, by decide⟩
  exact ⟨coherent_runActions _ hrooted
    (Files.withDirectory_withDirectory hrooted hnames hhouse) actions,
    file?_withDirectory hrooted hnames hhouse hname⟩

/-- An index that a backend finds and that can be saved is saved and provided. -/
theorem discoverAndSave_of_found {i : Index} {b : Backend} {time : Text}
    (hfound : ((b.discover t store.root time).resume none []).1 = .ok i)
    (hsave : (store.save i).run.run t = (.ok (), u)) :
    ∃ messages, (store.discoverAndSave b time).run t = (⟨messages, .ok i⟩, u) := by
  rw [run_discoverAndSave]
  generalize (b.discover t store.root time).resume none [] = outcome at hfound
  obtain ⟨result, messages⟩ := outcome
  obtain rfl : result = .ok i := hfound
  dsimp only
  rw [hsave]
  exact ⟨messages, rfl⟩

/-- So it is where there is no index and the backend is selected. -/
theorem loadOrDiscover_of_found (registry : Registry) {i : Index} {b : Backend} {time : Text}
    (habsent : store.isPresent t = .ok false)
    (hfound : ((b.discover t store.root time).resume none []).1 = .ok i)
    (hsave : (store.save i).run.run t = (.ok (), u)) :
    ∃ messages, (store.loadOrDiscover registry (some b) time).run t = (⟨messages, .ok i⟩, u) := by
  obtain ⟨messages, hrun⟩ := discoverAndSave_of_found hfound hsave
  rw [run_loadOrDiscover, habsent]
  dsimp only
  rw [StateT.run_map, hrun]
  exact ⟨messages, rfl⟩

/-- An index that was just discovered instead of being loaded is loaded the next time. -/
theorem loadOrDiscover_again {registry : Registry} {selected : Option Backend} {time : Text}
    {messages : List Text} (habsent : store.isPresent t = .ok false)
    (hrun : (store.loadOrDiscover registry selected time).run t = (⟨messages, .ok i⟩, u))
    (hdirectory : u.isDirectory store.path.parent = true) (registry' : Registry)
    (selected' : Option Backend) (time' : Text) :
    (store.loadOrDiscover registry' selected' time').run u = (⟨[], .ok i⟩, u) := by
  rw [run_loadOrDiscover, habsent] at hrun
  cases selected with
  | none => cases hrun
  | some b =>
    obtain ⟨j, hdiscover, rfl⟩ : ∃ j : Index,
        (store.discoverAndSave b time).run t = (⟨messages, .ok j⟩, u) ∧ j = i := by
      dsimp only at hrun
      rw [StateT.run_map] at hrun
      rcases hdiscover : (store.discoverAndSave b time).run t with ⟨⟨_, _ | j⟩, _⟩
      · rw [hdiscover] at hrun
        cases hrun
      · rw [hdiscover] at hrun
        cases hrun
        exact ⟨j, rfl, rfl⟩
    -- What was discovered was saved, and is of the current version.
    obtain ⟨hversion, hsave⟩ := discoverAndSave_returned (i := j) (by rw [hdiscover])
    rw [hdiscover] at hsave
    have hload := load_of_save hsave hversion hdirectory
    rw [run_loadOrDiscover, isPresent_of_load hload, hload]
    rfl

/-- **The file of the index is coherent.** Take any session with the store of a repository, whose
root is a directory of a tree. As long as no index has been discovered, the file is what it was at
first; afterwards it spells the index that was discovered last, which is of the current version, as
long as there is a way to the directory of the file. There is one unless a link in the tree bears
the name of the file. Where the file is there, loading or discovering loads it, well or badly, and
changes nothing. Where it is not there or cannot be looked up, and no backend is selected, nothing
changes either; and where the index was discovered, it is loaded the next time, and nothing is
discovered and nothing changes then. -/
theorem file_coherent (root : Path) (t : FileTree) (hrooted : t.IsRooted)
    (hroot : t.isDirectory root = true) (actions : List Action) :
    let store := standard root
    let run := store.runActions t actions
    (run.last = none → store.file? run.tree = store.file? t) ∧
    (∀ i, run.last = some i → i.version = schemaVersion ∧ store.Holds run.tree i) ∧
    (run.last ≠ none →
      (∀ place target, t.get? place = some (.link target) →
        place.getLast? ≠ some "index.json".toList) →
      run.tree.isDirectory store.path.parent = true) ∧
    (∀ registry selected time, store.file? run.tree ≠ none →
      (store.loadOrDiscover registry selected time).run run.tree =
        (⟨[], (store.load run.tree).mapError .load⟩, run.tree)) ∧
    (∀ registry time, store.isPresent run.tree = .ok false →
      (store.loadOrDiscover registry none time).run run.tree =
        (⟨[], .error (.choice .nothingSelected)⟩, run.tree)) ∧
    (∀ registry selected time fault, store.isPresent run.tree = .error fault →
      (store.loadOrDiscover registry selected time).run run.tree =
        (⟨[], .error (.load fault)⟩, run.tree)) ∧
    ∀ registry selected time messages i u, store.isPresent run.tree = .ok false →
      (store.loadOrDiscover registry selected time).run run.tree = (⟨messages, .ok i⟩, u) →
      u.isDirectory store.path.parent = true →
      ∀ registry' selected' time',
        (store.loadOrDiscover registry' selected' time').run u = (⟨[], .ok i⟩, u) := by
  intro store run
  obtain ⟨hcoherent, hmade⟩ := coherent_standard root hrooted hroot actions
  refine ⟨?_, ?_, ?_, ?_, ?_, ?_, ?_⟩
  · -- Without a discovery, the most that has changed is the directory, which holds nothing.
    intro hlast
    rcases hcoherent.untouched hlast with hsame | hdirectory
    · show store.file? ((standard root).runActions t actions).tree = _
      rw [hsame]
    · show store.file? ((standard root).runActions t actions).tree = _
      rw [hdirectory]
      exact hmade
  · intro i hlast
    exact ⟨hcoherent.current i hlast, hcoherent.held i hlast⟩
  · intro hlast hlinks
    refine hcoherent.sound.reachable hlast fun place target hlink => ?_
    rw [standard_path, List.getLast?_append_of_ne_nil _ (List.cons_ne_nil _ _)]
    exact hlinks place target hlink
  · -- Where there is a file, it is loaded.
    intro registry selected time hfile
    rw [run_loadOrDiscover, isPresent_eq_true_iff.mpr hfile]
  · intro registry time habsent
    rw [run_loadOrDiscover, habsent]
  · intro registry selected time fault hfault
    rw [run_loadOrDiscover, hfault]
  · intro registry selected time messages i u habsent hrun hdirectory
    exact loadOrDiscover_again habsent hrun hdirectory

/-- The index of a repository in which a backend for routers finds nothing. -/
def emptyIndex : Index :=
  ⟨schemaVersion, [], ⟨"/".toList, "python".toList, "python".toList⟩, [], List.nodup_nil⟩

/-- Where there are no scripts, that index is discovered. -/
theorem resume_discover_of_no_scripts
    (hfiles : Source.files t ⟨.slash, []⟩ Routers.scripts = .ok []) :
    ((Backend.routers.discover t ⟨.slash, []⟩ []).resume none []).1 = .ok emptyIndex := by
  have hcanonical : (t.canonical ⟨.slash, []⟩).mapError DiscoveryFault.looping =
      .ok ⟨.slash, []⟩ := by cbv
  have hscanner : Backend.routers.scanner.scan t ⟨.slash, []⟩ = Routers.discover t ⟨.slash, []⟩ :=
    rfl
  obtain ⟨messages, hscan⟩ : ∃ messages,
      (Routers.discover t ⟨.slash, []⟩).resume none [] = (.ok [], messages) := by
    unfold Routers.discover Source.forEach
    rw [Source.files_eq_ok_iff.mp hfiles]
    exact ⟨_, rfl⟩
  have hbuild : (buildIndex ⟨"/".toList, "python".toList, "python".toList⟩ [] []).mapError
      DiscoveryFault.unbuilt = .ok emptyIndex := rfl
  rw [Backend.discover, hcanonical, Scan.resume_bind, Scan.resume_ofExcept]
  dsimp only
  rw [Scan.resume_bind, hscanner, hscan]
  dsimp only
  rw [Scan.resume_ofExcept]
  exact hbuild

/-- It can be saved in a tree that holds nothing, and then there is a way to its file. -/
theorem exists_save_emptyIndex :
    ∃ u, ((standard ⟨.slash, []⟩).save emptyIndex).run.run {} = (.ok (), u) ∧
      u.isDirectory (standard ⟨.slash, []⟩).path.parent = true := by
  rw [save, DocumentFile.write, standard_path]
  exact ⟨_, by cbv, by cbv⟩

/-- In a tree that holds nothing, an index is discovered, and the file spells it. -/
theorem file_coherent_of_nothing :
    FileTree.IsRooted {} ∧ FileTree.isDirectory {} ⟨.slash, []⟩ = true ∧
      ((standard ⟨.slash, []⟩).runActions {}
        [.loadOrDiscover .bundled (some .routers) []]).last = some emptyIndex ∧
      ((standard ⟨.slash, []⟩).runActions {}
        [.loadOrDiscover .bundled (some .routers) []]).tree.isDirectory
          (standard ⟨.slash, []⟩).path.parent = true ∧
      (standard ⟨.slash, []⟩).Holds ((standard ⟨.slash, []⟩).runActions {}
        [.loadOrDiscover .bundled (some .routers) []]).tree emptyIndex := by
  have habsent : (standard ⟨.slash, []⟩).isPresent {} = .ok false := by
    unfold isPresent
    rw [standard_path]
    cbv
  obtain ⟨u, hsave, -⟩ := exists_save_emptyIndex
  have hfiles : Source.files {} ⟨.slash, []⟩ Routers.scripts = .ok [] := by cbv
  obtain ⟨messages, hrun⟩ := loadOrDiscover_of_found .bundled habsent
    (resume_discover_of_no_scripts hfiles) hsave
  have hlast : ((standard ⟨.slash, []⟩).runActions {}
      [.loadOrDiscover .bundled (some .routers) []]).last = some emptyIndex := by
    rw [runActions, List.foldl_cons, List.foldl_nil, actStep, act, hrun, discovers, habsent]
    rfl
  have hroot : FileTree.isDirectory {} ⟨.slash, []⟩ = true := by cbv
  obtain ⟨-, hheld, hreach, -⟩ := file_coherent ⟨.slash, []⟩ {} FileTree.isRooted_empty hroot
    [.loadOrDiscover .bundled (some .routers) []]
  refine ⟨FileTree.isRooted_empty, hroot, hlast, hreach (by rw [hlast]; simp) ?_, (hheld _ hlast).2⟩
  intro place target hlink
  by_cases hplace : place = []
  · rw [hplace, FileTree.get?_nil] at hlink
    cases hlink
  · rw [FileTree.get?_empty hplace] at hlink
    cases hlink

/-- What becomes of the tree with the link in its own way when an index is saved there. -/
def replacedLinkTree (bytes : Bytes) : FileTree :=
  selfLinkedTree.put ["index.json".toList] (.file bytes (Files.directoryMode selfLinkedTree))

/-- Saving puts the file in the place of the link that leads to its directory. -/
theorem save_selfLinkedTree {bytes : Bytes}
    (h : DocumentFile.bytesOf layout (Encode.index i) = .ok bytes) :
    (rootStore.save i).run.run selfLinkedTree = (.ok (), replacedLinkTree bytes) := by
  rw [save, DocumentFile.write, rootStore_path, h]
  cbv

/-- After that, no index is saved there any more. -/
theorem save_replacedLinkTree (i : Index CodePoint) (bytes : Bytes) :
    (rootStore.save i).run.run (replacedLinkTree bytes) =
      (.error ⟨rootStore.path, .files { reason := .existing, path := rootStore.path.parent }⟩,
        replacedLinkTree bytes) := by
  rw [save, DocumentFile.write, rootStore_path]
  generalize DocumentFile.bytesOf layout (Encode.index i) = contents
  cbv

/-- A root that is reached by going up from the root again and again. -/
def windingRoot : Path := ⟨.slash, List.replicate 1364 ['.', '.']⟩

/-- Its text is not too long yet. -/
theorem isLookable_windingRoot : FileTree.IsLookable windingRoot := by
  have hstorable (n : Nat) : (List.replicate n ['.', '.']).all Path.isStorable = true := by
    rw [List.all_replicate]
    split <;> rfl
  have hnames : List.replicate 1364 ['.', '.'] ≠ [] := by
    rw [List.replicate_succ]
    exact List.cons_ne_nil _ _
  refine ⟨hstorable 1364, ?_⟩
  rw [windingRoot, FileTree.length_encode_text hnames, List.map_replicate, List.sum_replicate_nat]
  decide

/-- Going up from the root leads to the root, so the path does. -/
theorem isDirectory_windingRoot : t.isDirectory windingRoot = true := by
  have hup (n : Nat) : t.follow .followed FileTree.linkLimit [] (List.replicate n ['.', '.']) =
      .ok (.taken [] .directory) := by
    induction n with
    | zero => exact FileTree.follow_nil t _ _ (FileTree.get?_nil t)
    | succ n ih =>
      have hlook : t.look [] ['.', '.'] = .ok (.entry []) := by
        rw [FileTree.look, if_neg (by simp)]
        rfl
      rw [List.replicate_succ, FileTree.follow_of_entry hlook, ih]
  exact (FileTree.isDirectory_iff isLookable_windingRoot t).mpr ⟨[], hup 1364⟩

/-- An index whose path is too long is neither present nor missing. -/
theorem isPresent_of_long {s : Store} (h : s.path.names.all Path.isStorable = true)
    (hlong : FileTree.pathLimit < (Utf8.encode s.path.text).length) :
    s.isPresent t =
      .error (.document (.unlocatable { reason := .nameTooLong, path := s.path })) := by
  unfold isPresent FileTree.status? FileTree.status FileTree.locate
  rw [h, if_neg (by simp), if_pos hlong]
  rfl

/-- The path of its index is too long. -/
theorem isPresent_windingRoot :
    (standard windingRoot).isPresent t = .error (.document (.unlocatable
      { reason := .nameTooLong, path := (standard windingRoot).path })) := by
  have hstorable : (standard windingRoot).path.names.all Path.isStorable = true := by
    rw [standard_path, List.all_append, isLookable_windingRoot.1]
    decide
  have hlong : FileTree.pathLimit < (Utf8.encode (standard windingRoot).path.text).length := by
    have hnames := List.append_ne_nil_of_right_ne_nil windingRoot.names
      (List.cons_ne_nil ".apimap".toList ["index.json".toList])
    have hroot : windingRoot.root = .slash := rfl
    rw [standard_path, hroot, FileTree.length_encode_text hnames, List.map_append, windingRoot,
      List.map_replicate, List.sum_append, List.sum_replicate_nat]
    decide
  exact isPresent_of_long hstorable hlong

/-- A discovered index can be out of reach at once, so that it is not loaded the next time but
discovered again, and not saved. And an index that is missing can be reported as a path that is too
long. -/
theorem loadOrDiscover_of_odd_paths :
    (∃ messages u, (rootStore.loadOrDiscover .bundled (some .routers) []).run selfLinkedTree =
        (⟨messages, .ok emptyIndex⟩, u) ∧
      rootStore.file? u = none ∧
      ∃ fault, ((rootStore.loadOrDiscover .bundled (some .routers) []).run u).1.result =
        .error (.save fault)) ∧
    FileTree.isDirectory {} windingRoot = true ∧
    ∃ fault, ((standard windingRoot).loadOrDiscover .bundled none []).run {} =
      (⟨[], .error (.load fault)⟩, {}) := by
  refine ⟨?_, isDirectory_windingRoot, ?_⟩
  · have hencodable : Json.isEncodable (Encode.index emptyIndex) = true := by cbv
    have hshallow : Json.isShallow Json.nestingLimit (Encode.index emptyIndex) = true := by cbv
    obtain ⟨bytes, hbytes, -⟩ := DocumentFile.bytesOf_eq_ok layout hencodable hshallow
    have habsent : rootStore.isPresent selfLinkedTree = .ok false := by
      unfold isPresent
      rw [rootStore_path]
      cbv
    have hfiles : Source.files selfLinkedTree ⟨.slash, []⟩ Routers.scripts = .ok [] := by cbv
    obtain ⟨messages, hrun⟩ := loadOrDiscover_of_found .bundled habsent
      (resume_discover_of_no_scripts hfiles) (save_selfLinkedTree hbytes)
    -- The file has taken the place of the link that its own directory was reached through.
    have hagain : rootStore.isPresent (replacedLinkTree bytes) = .ok false := by
      unfold isPresent
      rw [rootStore_path]
      cbv
    refine ⟨messages, replacedLinkTree bytes, hrun, ?_, ?_⟩
    · by_contra hfile
      rw [isPresent_eq_true_iff.mpr hfile] at hagain
      cases hagain
    · have hfilesAgain : Source.files (replacedLinkTree bytes) ⟨.slash, []⟩ Routers.scripts =
          .ok [] := by cbv
      have hfoundAgain := resume_discover_of_no_scripts hfilesAgain
      have hroot : rootStore.root = ⟨.slash, []⟩ := rfl
      rw [run_loadOrDiscover, hagain]
      dsimp only
      rw [StateT.run_map, run_discoverAndSave, hroot]
      generalize (Backend.routers.discover (replacedLinkTree bytes) ⟨.slash, []⟩ []).resume none []
        = outcome at hfoundAgain
      obtain ⟨result, messages⟩ := outcome
      obtain rfl : result = .ok emptyIndex := hfoundAgain
      dsimp only
      rw [save_replacedLinkTree]
      exact ⟨_, rfl⟩
  · rw [run_loadOrDiscover, isPresent_windingRoot]
    exact ⟨_, rfl⟩

end RouteAtlas.Store
