import Mathlib
import RouteAtlas.Proofs.Files.Write
import RouteAtlas.Proofs.Store.Index

/-!
# Loading after saves

What a store loads after any number of saves, some of which may have failed: `load_runSaves`. One
save either puts the bytes of its index where the path of the store leads, or adds at most
directories to the tree (`save_cases`). After the former the store loads that index, and a later
save that fails changes nothing (`Sound.step`); directories alone do not change what the store loads
(`load_withDirectory`).

What is known along a run of saves is `Sound`: of the tree, of the last save that returned, and of
what is as it was if none did. One save keeps it, so any number of them do (`sound_runSaves`), and
the law about loading reads it off at the end.

Two things can go wrong, both of them in trees that are put together for it. The file takes the
place of a link that its own directory is reached through, and is out of reach then. Or a save that
fails has made a directory that the path leaves again by two dots, or behind which a name is too
long, so that loading gets further than before.
-/

namespace RouteAtlas.Store

variable {store : Store} {t u : FileTree} {i : Index CodePoint}

/-! ## Loading -/

/-- What is loaded depends on what the path of the store leads to. -/
theorem load_congr (h : u.status store.path = t.status store.path) :
    store.load u = store.load t := by
  simp only [load, isPresent, DocumentFile.read, Files.read, FileTree.status?, h]

/-- What is loaded from a file is what its bytes spell. -/
theorem load_eq_of_file {place : Place} {bytes : Bytes} {mode : Nat}
    (hstatus : t.status store.path = .ok (place, .file bytes mode)) :
    store.load t =
      (DocumentFile.ofBytes store.path bytes).mapError .document >>= ofDocument store.path := by
  have hstatus? : t.status? store.path = .ok (some (.file bytes mode)) := by
    rw [FileTree.status?, hstatus]
  rw [load, isPresent, hstatus?, DocumentFile.read_of_status hstatus]
  rfl

/-- A file that spells a document is loaded as that document says. -/
theorem load_of_file {place : Place} {bytes : Bytes} {mode : Nat} {document : Json}
    (hstatus : t.status store.path = .ok (place, .file bytes mode))
    (hbytes : DocumentFile.ofBytes store.path bytes = .ok document) :
    store.load t = ofDocument store.path document := by
  rw [load_eq_of_file hstatus, hbytes]
  rfl

/-- A path that cannot be looked up is reported. -/
theorem load_of_unlocatable {fault : FileFault} (h : t.status? store.path = .error fault) :
    store.load t = .error (.document (.unlocatable fault)) := by
  simp [load, isPresent, h, Except.mapError, bind, Except.bind]

/-- Where the path leads to nothing or to a directory, no index is loaded. -/
theorem load_of_absent
    (h : t.status? store.path = .ok none ∨ t.status? store.path = .ok (some .directory)) :
    store.load t = .error (.absent store.path) := by
  rcases h with h | h <;>
    simp [load, isPresent, h, Except.mapError, bind, Except.bind, pure, Except.pure, throw,
      throwThe, MonadExceptOf.throw]

/-- No index is loaded where the way of the path ends below new directories. -/
theorem load_of_endsBelow (base : Place) (hlookable : FileTree.IsLookable store.path)
    (h : FileTree.EndsBelow base
      (t.follow .followed FileTree.linkLimit [] store.path.names)) :
    store.load t = .error (.absent store.path) := by
  apply load_of_absent
  rw [FileTree.status?, FileTree.status_of_isLookable hlookable]
  generalize t.follow .followed FileTree.linkLimit [] store.path.names = result at h
  obtain reason | ⟨place, entry⟩ | ⟨directory, name⟩ := result
  · rcases h with rfl | rfl <;> exact .inl rfl
  · obtain ⟨-, rfl⟩ := h
    exact .inr rfl
  · exact .inl rfl

/-- Making directories for the path of a store changes nothing about what it loads, if there is
nothing to make or the path stays in what is made. -/
theorem load_withDirectory (hrooted : t.IsRooted)
    (h : t.isDirectory store.path.parent = true ∨
      ∀ name ∈ store.path.names, FileTree.IsTame name) :
    store.load (Files.withDirectory t store.path.parent) = store.load t := by
  rcases h with hdirectory | hnames
  · rw [Files.withDirectory_of_isDirectory hdirectory]
  · rcases Files.withDirectory_grown store.path.parent hrooted
      fun name hname => hnames name (List.dropLast_subset _ hname) with
      hsame | ⟨front, directory, name, rest, hsplit, hfollow, hgrown⟩
    · rw [hsame]
    · -- Without the new directories the path comes to nothing, and with them it ends in one.
      by_cases hlookable : FileTree.IsLookable store.path
      · obtain ⟨last, hconcat⟩ : ∃ last, store.path.names = front ++ (rest ++ [last]) := by
          have hne : store.path.names ≠ [] := by
            intro hnil
            rw [Path.parent, hnil, List.dropLast_nil, eq_comm, List.append_eq_nil_iff] at hsplit
            rw [hsplit.1, FileTree.follow_nil _ _ _ (FileTree.get?_nil _)] at hfollow
            exact absurd hfollow (by simp)
          refine ⟨store.path.names.getLast hne, ?_⟩
          rw [← List.append_assoc, ← hsplit]
          exact (List.dropLast_append_getLast hne).symm
        obtain ⟨links, hgo⟩ := FileTree.follow_grown hgrown hfollow
        obtain ⟨hafter, hbefore⟩ := hgo .followed (rest ++ [last])
        rw [load_of_endsBelow (directory ++ [name]) hlookable (by
            rw [hconcat, hafter]
            exact FileTree.follow_below hgrown List.prefix_rfl fun name hname =>
              hnames name (hconcat ▸ List.mem_append_right front hname)),
          load_of_endsBelow (directory ++ [name]) hlookable (by
            rw [hconcat, hbefore (by simp)]
            exact .inl rfl)]
      · exact load_congr (by rw [FileTree.status, FileTree.status,
          FileTree.locate_of_not_isLookable hlookable _ t _ .followed])

/-! ## One save -/

/-- A save that returns puts the bytes of its index where the path of the store leads. One that
fails leaves at most new directories behind. -/
theorem save_cases (store : Store) (i : Index CodePoint) (t : FileTree) :
    (∃ fault, (store.save i).run.run t =
      (.error fault, Files.withDirectory t store.path.parent)) ∨
    (∃ bytes mode temporary spot, DocumentFile.bytesOf layout (Encode.index i) = .ok bytes ∧
      Files.ReplacedAt (Files.withDirectory t store.path.parent) store.path mode temporary spot ∧
      (store.save i).run.run t =
        (.ok (), (Files.withDirectory t store.path.parent).put spot.place (.file bytes mode))) := by
  rw [save, Filing.run_adapt, DocumentFile.write]
  rcases Files.replace_cases DocumentFile.WriteFault.files store.path
    (DocumentFile.bytesOf layout (Encode.index i)) t with
    ⟨fault, -, hrun⟩ | ⟨bytes, mode, temporary, spot, hbytes, hreplaced, hrun⟩
  · rw [hrun]
    exact .inl ⟨_, rfl⟩
  · rw [hrun]
    exact .inr ⟨bytes, mode, temporary, spot, hbytes, hreplaced, rfl⟩

/-- What a save that returned has done. -/
theorem exists_replacedAt_of_save (h : (store.save i).run.run t = (.ok (), u)) :
    ∃ bytes mode temporary spot, DocumentFile.bytesOf layout (Encode.index i) = .ok bytes ∧
      Files.ReplacedAt (Files.withDirectory t store.path.parent) store.path mode temporary spot ∧
      u = (Files.withDirectory t store.path.parent).put spot.place (.file bytes mode) := by
  rcases save_cases store i t with
    ⟨fault, hrun⟩ | ⟨bytes, mode, temporary, spot, hbytes, hreplaced, hrun⟩
  · rw [hrun] at h
    cases h
  · rw [hrun] at h
    exact ⟨bytes, mode, temporary, spot, hbytes, hreplaced, (Prod.mk.inj h).2.symm⟩

/-- After its index was put there, a store loads it, if there is still a way to its directory. -/
theorem load_of_replacedAt {bytes : Bytes} {mode : Nat} {temporary : Place} {spot : Spot}
    (hbytes : DocumentFile.bytesOf layout (Encode.index i) = .ok bytes)
    (h : Files.ReplacedAt t store.path mode temporary spot) :
    store.load (t.put spot.place (.file bytes mode)) =
      if (t.put spot.place (.file bytes mode)).isDirectory store.path.parent then
        if i.version = schemaVersion then .ok i else .error (.wrongVersion (.int i.version))
      else .error (.absent store.path) := by
  rcases h.status bytes with ⟨hdirectory, hstatus⟩ | ⟨hdirectory, hstatus, -⟩
  · rw [if_pos hdirectory, load_of_file hstatus (ofBytes_bytesOf_index hbytes _), ofDocument_index]
  · rw [if_neg (by simp [hdirectory])]
    apply load_of_absent
    rw [FileTree.status?, hstatus]
    exact .inl rfl

/-- After a save that returned, a store loads the index, if there is still a way to its
directory. -/
theorem load_of_save (h : (store.save i).run.run t = (.ok (), u))
    (hversion : i.version = schemaVersion)
    (hdirectory : u.isDirectory store.path.parent = true) : store.load u = .ok i := by
  obtain ⟨bytes, mode, temporary, spot, hbytes, hreplaced, rfl⟩ := exists_replacedAt_of_save h
  rw [load_of_replacedAt hbytes hreplaced, if_pos hdirectory, if_pos hversion]

/-! ## Any number of saves -/

/-- What came of saves so far: the index whose save returned last, and the tree. -/
structure SaveRun where
  last : Option (Index CodePoint)
  tree : FileTree

/-- One more save, which returns or fails. -/
def saveStep (store : Store) (run : SaveRun) (i : Index CodePoint) : SaveRun :=
  match (store.save i).run.run run.tree with
  | (.ok (), tree) => ⟨some i, tree⟩
  | (.error _, tree) => ⟨run.last, tree⟩

/-- Saves one after the other. -/
def runSaves (store : Store) (t : FileTree) (indexes : List (Index CodePoint)) : SaveRun :=
  indexes.foldl store.saveStep ⟨none, t⟩

/-- A single save. -/
theorem runSaves_singleton (store : Store) (t : FileTree) (i : Index CodePoint) :
    store.runSaves t [i] =
      ⟨match ((store.save i).run.run t).1 with
        | .ok () => some i
        | .error _ => none, ((store.save i).run.run t).2⟩ := by
  rw [runSaves, List.foldl_cons, List.foldl_nil, saveStep]
  rcases (store.save i).run.run t with ⟨_ | _, u⟩ <;> rfl

/-- What is known along a run of saves that started with the tree `t`. -/
structure Sound (store : Store) (t : FileTree) (run : SaveRun) : Prop where
  rooted : run.tree.IsRooted
  links : ∀ place target, run.tree.get? place = some (.link target) →
    t.get? place = some (.link target)
  /-- Where a save has returned, its index is loaded, and a save that fails will change nothing. -/
  saved : ∀ i, run.last = some i →
    Files.withDirectory run.tree store.path.parent = run.tree ∧
      store.load run.tree =
        if run.tree.isDirectory store.path.parent then
          if i.version = schemaVersion then .ok i else .error (.wrongVersion (.int i.version))
        else .error (.absent store.path)
  reachable : run.last ≠ none →
    (∀ place target, t.get? place = some (.link target) →
      place.getLast? ≠ store.path.names.getLast?) →
    run.tree.isDirectory store.path.parent = true
  /-- Where no save has returned, what is loaded is the same, as long as it can be told. -/
  unsaved : run.last = none →
    (t.isDirectory store.path.parent = true → run.tree = t) ∧
      ((∀ name ∈ store.path.names, FileTree.IsTame name) → store.load run.tree = store.load t)

variable {run : SaveRun}

/-- A save that fails keeps the run sound. -/
theorem Sound.failed (h : Sound store t run) :
    Sound store t ⟨run.last, Files.withDirectory run.tree store.path.parent⟩ where
  rooted := Files.isRooted_withDirectory _ _ h.rooted
  links place target hlink := by
    rcases Files.onlyDirectoriesNew_withDirectory store.path.parent run.tree place with
      hsame | ⟨-, hnew⟩
    · exact h.links place target (hsame ▸ hlink)
    · rw [hnew] at hlink
      cases hlink
  saved i hi := by
    rw [(h.saved i hi).1]
    exact h.saved i hi
  reachable hlast hlinks := by
    obtain ⟨i, hi⟩ := Option.ne_none_iff_exists'.mp hlast
    rw [(h.saved i hi).1]
    exact h.reachable hlast hlinks
  unsaved hlast := by
    obtain ⟨hhoused, htame⟩ := h.unsaved hlast
    refine ⟨fun hdirectory => ?_, fun hnames => ?_⟩
    · rw [hhoused hdirectory, Files.withDirectory_of_isDirectory hdirectory]
    · rw [load_withDirectory h.rooted (.inr hnames), htame hnames]

/-- A save that returns keeps the run sound. -/
theorem Sound.returned (h : Sound store t run) {bytes : Bytes} {mode : Nat} {temporary : Place}
    {spot : Spot} (hbytes : DocumentFile.bytesOf layout (Encode.index i) = .ok bytes)
    (hreplaced : Files.ReplacedAt (Files.withDirectory run.tree store.path.parent) store.path mode
      temporary spot) :
    Sound store t ⟨some i,
      (Files.withDirectory run.tree store.path.parent).put spot.place (.file bytes mode)⟩ where
  rooted := hreplaced.isRooted_put bytes h.failed.rooted
  links place target hlink := by
    rw [FileTree.get?_put_of_ne_nil _ hreplaced.place_ne_nil] at hlink
    split at hlink
    · cases hlink
    · exact h.failed.links place target hlink
  saved j hj := by
    obtain rfl := Option.some.inj hj
    exact ⟨hreplaced.withDirectory_parent bytes, load_of_replacedAt hbytes hreplaced⟩
  reachable _ hlinks := by
    refine hreplaced.isDirectory_parent bytes h.failed.rooted fun place target hlink => ?_
    exact hlinks place target (h.failed.links place target hlink)
  unsaved hlast := by cases hlast

theorem Sound.step (h : Sound store t run) (i : Index CodePoint) :
    Sound store t (store.saveStep run i) := by
  rcases save_cases store i run.tree with
    ⟨fault, hrun⟩ | ⟨bytes, mode, temporary, spot, hbytes, hreplaced, hrun⟩
  · rw [saveStep, hrun]
    exact h.failed
  · rw [saveStep, hrun]
    exact h.returned hbytes hreplaced

theorem sound_runSaves (store : Store) (hrooted : t.IsRooted) (indexes : List (Index CodePoint)) :
    Sound store t (store.runSaves t indexes) := by
  have hstart : Sound store t ⟨none, t⟩ :=
    { rooted := hrooted
      links := fun _ _ => id
      saved := fun _ h => by cases h
      reachable := fun h => absurd rfl h
      unsaved := fun _ => ⟨fun _ => rfl, fun _ => rfl⟩ }
  unfold runSaves
  -- The induction is on the saves that are left, from any run that is sound so far.
  generalize (⟨none, t⟩ : SaveRun) = run at hstart ⊢
  induction indexes generalizing run with
  | nil => exact hstart
  | cons i indexes ih => exact ih _ (hstart.step i)

/-- After a save that returned, there is a way to the directory of the file, unless a link bears the
name of the file. -/
theorem isDirectory_of_save (hrooted : t.IsRooted) (h : (store.save i).run.run t = (.ok (), u))
    (hlinks : ∀ place target, t.get? place = some (.link target) →
      place.getLast? ≠ store.path.names.getLast?) :
    u.isDirectory store.path.parent = true := by
  have hreachable := (sound_runSaves store hrooted [i]).reachable
  rw [runSaves_singleton, h] at hreachable
  exact hreachable (by simp) hlinks

/-- **A store loads what was saved last.** If a save has returned, the index of the last one that
did is loaded, or its version is refused, as long as there is a way to the directory of the file; it
is there unless a link in the tree bears the name of the file. If no save has returned, loading
gives what it gave before, provided that the directory was there already or no name of the path is
two dots or too long. -/
theorem load_runSaves (store : Store) (t : FileTree) (hrooted : t.IsRooted)
    (indexes : List (Index CodePoint)) :
    (∀ i, (store.runSaves t indexes).last = some i →
      store.load (store.runSaves t indexes).tree =
        if (store.runSaves t indexes).tree.isDirectory store.path.parent then
          if i.version = schemaVersion then .ok i else .error (.wrongVersion (.int i.version))
        else .error (.absent store.path)) ∧
    ((store.runSaves t indexes).last ≠ none →
      (∀ place target, t.get? place = some (.link target) →
        place.getLast? ≠ store.path.names.getLast?) →
      (store.runSaves t indexes).tree.isDirectory store.path.parent = true) ∧
    ((store.runSaves t indexes).last = none →
      (t.isDirectory store.path.parent = true ∨
        ∀ name ∈ store.path.names, FileTree.IsTame name) →
      store.load (store.runSaves t indexes).tree = store.load t) := by
  have hsound := sound_runSaves store hrooted indexes
  refine ⟨fun i hi => (hsound.saved i hi).2, hsound.reachable, fun hlast h => ?_⟩
  obtain ⟨hhoused, htame⟩ := hsound.unsaved hlast
  rcases h with hdirectory | hnames
  · rw [hhoused hdirectory]
  · exact htame hnames

/-- An index without routes. -/
def bareIndex : Index CodePoint := ⟨schemaVersion, [], ⟨[], [], []⟩, [], List.nodup_nil⟩

/-- The store of a repository at the root of the tree. -/
def rootStore : Store := ⟨⟨.slash, []⟩, .standard⟩

theorem rootStore_path :
    rootStore.path = ⟨.slash, [".apimap".toList, "index.json".toList]⟩ := by decide +kernel

/-- In a tree that holds nothing, a save returns and its index is loaded. -/
theorem load_runSaves_of_nothing :
    FileTree.IsRooted {} ∧ (rootStore.runSaves {} [bareIndex]).last = some bareIndex ∧
      rootStore.load (rootStore.runSaves {} [bareIndex]).tree = .ok bareIndex := by
  have hrooted : FileTree.IsRooted {} := by
    intro place hplace
    obtain rfl : place = [] := by
      by_contra hne
      rw [FileTree.get?, if_neg hne] at hplace
      exact absurd hplace (by simp)
    rfl
  have hlast : (rootStore.runSaves {} [bareIndex]).last = some bareIndex := by
    rw [runSaves_singleton, save, DocumentFile.write, rootStore_path]
    cbv
  obtain ⟨hload, hreach, -⟩ := load_runSaves rootStore {} hrooted [bareIndex]
  have hdirectory := hreach (by rw [hlast]; simp) fun place target hlink => by
    rw [FileTree.get?] at hlink
    split at hlink
    · cases hlink
    · exact absurd hlink (by simp)
  refine ⟨hrooted, hlast, ?_⟩
  rw [hload _ hlast, if_pos hdirectory]
  exact if_pos rfl

/-- A tree in which the directory of the index is reached through the link that bears the name of
the file. -/
def selfLinkedTree : FileTree where
  entries := [([".apimap".toList], .link "index.json".toList), (["index.json".toList], .link ['.'])]
  distinct := by decide

/-- A store whose file has a name that is too long. -/
def longNamedStore : Store :=
  ⟨⟨.slash, []⟩, { Settings.standard with indexFile := List.replicate 256 'i' }⟩

theorem longNamedStore_path :
    longNamedStore.path = ⟨.slash, [".apimap".toList, List.replicate 256 'i']⟩ := by
  decide +kernel

-- The name that is too long is taken apart character by character.
set_option maxRecDepth 4096 in
/-- A saved index can be out of reach, and a save that fails can be noticed: a link in its own way
is replaced by the file, or a directory is made in front of a name that is too long. -/
theorem load_runSaves_of_odd_paths :
    ((rootStore.runSaves selfLinkedTree [bareIndex]).last = some bareIndex ∧
      bareIndex.version = schemaVersion ∧
      rootStore.load (rootStore.runSaves selfLinkedTree [bareIndex]).tree =
        .error (.absent rootStore.path)) ∧
    ((longNamedStore.runSaves {} [bareIndex]).last = none ∧
      longNamedStore.load {} = .error (.absent longNamedStore.path) ∧
      longNamedStore.load (longNamedStore.runSaves {} [bareIndex]).tree =
        .error (.document (.unlocatable
          { reason := .nameTooLong, path := longNamedStore.path }))) := by
  refine ⟨⟨?_, rfl, ?_⟩, ?_, ?_, ?_⟩
  · rw [runSaves_singleton, save, DocumentFile.write, rootStore_path]
    cbv
  · apply load_of_absent
    rw [runSaves_singleton, save, DocumentFile.write, rootStore_path]
    exact .inl (by cbv)
  · rw [runSaves_singleton, save, DocumentFile.write, longNamedStore_path]
    cbv
  · apply load_of_absent
    rw [longNamedStore_path]
    exact .inl (by cbv)
  · apply load_of_unlocatable
    rw [runSaves_singleton, save, DocumentFile.write, longNamedStore_path]
    cbv

end RouteAtlas.Store
