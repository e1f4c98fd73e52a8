import RouteAtlas.Proofs.Discovery.Session
import RouteAtlas.Proofs.Index.Build

/-!
# Discoveries that are cancelled beforehand

A scan looks at whether it was cancelled in front of each piece of its work, a project or a source
file, and nowhere else. So a discovery that is cancelled before it begins stops in front of the
first piece, with nothing but its opening reported, if it gets to one (`Backend.HasWork`). The
projects of a repository are all come by first, so a walk that breaks off leaves none to get to; the
scripts are scanned as the walk comes to them, and one in front of where it breaks off is enough.

If there is no such piece, the discovery never notices: it does what it does uncancelled, and what
it then finds, if the walk goes through, is an index without routes, which is saved
(`Store.discoverAndSave_precancelled`).

When a scan is cancelled is told by how many messages it has reported by then, and beforehand is
after none. So the first look ends the scan (`Scan.resume_check_bind`), and in a scan in which nobody
looks the number makes no difference. That a cancelled discovery leaves the tree as it was needs no
argument of its own, since nothing is written before a scan has come to its result.
-/

namespace RouteAtlas

namespace Scan

variable {α β : Type}

/-- What begins with a check does not go on once the scan was cancelled. -/
theorem resume_check_bind {patience : Nat} {reported : List Text}
    (h : patience ≤ reported.length) (next : Unit → Scan α) :
    (check >>= next).resume (some patience) reported = (.error .cancelled, reported) := by
  rw [resume_bind, resume_check]
  simp [h]

/-- If the first of some steps fails, the others are not taken. -/
theorem resumeIn_mapM_of_error {step : β → Scan α} {circumstances : Circumstances}
    {reported messages : List Text} {fault : DiscoveryFault} {first : β}
    (h : (step first).resumeIn circumstances reported = (.error fault, messages)) (rest : List β) :
    ((first :: rest).mapM step).resumeIn circumstances reported = (.error fault, messages) := by
  rw [List.mapM_cons, resumeIn_bind, h]

end Scan

/-! ## Work -/

namespace Scanner

/-- What a scan reports before anything else. -/
def opening : Scanner → List Text
  | .controllers => ["Discovering ASP.NET routes...".toList]
  | .routers => ["Discovering Python web routes...".toList]
  | .idle => []

/-- A scan gets to something to go through below a directory: to a project, if the walk to the
project files goes through, or to a script, wherever the walk to the scripts breaks off behind it.
-/
def HasWork (scanner : Scanner) (t : FileTree) (root : Path) : Prop :=
  match scanner with
  | .controllers =>
    ∃ first rest, Source.files t root Controllers.projectFiles = .ok (first :: rest)
  | .routers => ∃ first rest fault?, Source.walk t root Routers.scripts = .ok ⟨first :: rest, fault?⟩
  | .idle => False

end Scanner

/-- There is something to go through in a repository. -/
def Backend.HasWork (b : Backend) (t : FileTree) (root : Path) : Prop :=
  ∃ canonical, t.canonical root = .ok canonical ∧ b.scanner.HasWork t canonical

/-! ## Scans with and without work -/

namespace Controllers

variable {t : FileTree} {root : Path}

/-- Leaving out repetitions leaves something. -/
theorem eraseRepsBy_loop_ne_nil {α : Type} (same : α → α → Bool) (a : α)
    (rest kept : List α) : List.eraseRepsBy.loop same a rest kept ≠ [] := by
  induction rest generalizing a kept with
  | nil =>
    rw [List.eraseRepsBy.loop]
    simp
  | cons b rest ih =>
    rw [List.eraseRepsBy.loop]
    split
    · exact ih a kept
    · exact ih b (a :: kept)

/-- There is a project for a project file. -/
theorem projectsOf_ne_nil {files : List Path} (h : files ≠ []) : projectsOf files ≠ [] := by
  have hsorted : (files.map Path.parent).mergeSort Path.le ≠ [] := by
    rw [ne_eq, ← List.length_eq_zero_iff, List.length_mergeSort, List.length_map,
      List.length_eq_zero_iff]
    exact h
  obtain ⟨first, rest, hcons⟩ := List.exists_cons_of_ne_nil hsorted
  rw [projectsOf, hcons]
  exact eraseRepsBy_loop_ne_nil _ first rest []

/-- A scan that was cancelled stops in front of the first project. -/
theorem resume_discover_of_files {files : List Path}
    (hfiles : Source.files t root projectFiles = .ok files) (hne : files ≠ []) :
    (discover t root).resume (some 0) [] = (.error .cancelled, Scanner.opening .controllers) := by
  obtain ⟨project, others, hprojects⟩ := List.exists_cons_of_ne_nil (projectsOf_ne_nil hne)
  have hproject : (scanProjectOrSkip t root (projectsOf files) project).resume (some 0)
      (Scanner.opening .controllers) = (.error .cancelled, Scanner.opening .controllers) := by
    unfold scanProjectOrSkip
    exact Scan.resume_check_bind (Nat.zero_le _) _
  have hall : ((project :: others).mapM (scanProjectOrSkip t root (projectsOf files))).resume
      (some 0) (Scanner.opening .controllers) =
        (.error .cancelled, Scanner.opening .controllers) :=
    Scan.resumeIn_mapM_of_error hproject others
  rw [← hprojects] at hall
  have hopening : [] ++ ["Discovering ASP.NET routes...".toList] = Scanner.opening .controllers :=
    rfl
  unfold discover
  rw [Scan.resume_bind, Scan.resume_report]
  dsimp only
  rw [Scan.resume_bind, Scan.resume_ofExcept, hfiles]
  dsimp only
  rw [if_neg (by simpa using hne), Scan.resume_bind, hopening, hall]

/-- Without projects, whether a scan was cancelled makes no difference, and there are no routes. -/
theorem resume_discover_of_no_files
    (h : ¬ Scanner.HasWork .controllers t root) (cancelAfter : Option Nat) :
    (discover t root).resume cancelAfter [] = (discover t root).resume none [] ∧
      ∀ routes messages, (discover t root).resume cancelAfter [] = (.ok routes, messages) →
        routes = [] := by
  unfold discover
  cases hfiles : Source.files t root projectFiles with
  | error fault => exact ⟨rfl, fun routes messages hrun => by cases hrun⟩
  | ok files =>
    cases files with
    | nil =>
      refine ⟨rfl, fun routes messages hrun => ?_⟩
      cases hrun
      rfl
    | cons first rest => exact absurd ⟨first, rest, hfiles⟩ h

end Controllers

namespace Routers

variable {t : FileTree} {root : Path}

/-- The scan of a repository comes down to that of the scripts that a walk comes to, and to how the
walk ends. -/
theorem resumeIn_discover_eq {w : Source.Walk} (hwalk : Source.walk t root scripts = .ok w)
    (circumstances : Circumstances) :
    (discover t root).resumeIn circumstances [] =
      match (w.files.mapM (scanFile t root)).resumeIn circumstances (Scanner.opening .routers),
        w.finish with
      | (.ok found, messages), .ok () =>
        (.ok (found.flatten.filter (·.kind == .controller) ++
            found.flatten.filter (·.kind == .endpoint)),
          messages ++ ["Discovered ".toList ++ countText found.flatten.length ++ ['.']])
      | (.ok _, messages), .error fault => (.error fault, messages)
      | (.error fault, messages), _ => (.error fault, messages) := by
  have hopening : [] ++ ["Discovering Python web routes...".toList] = Scanner.opening .routers :=
    rfl
  unfold discover Source.forEach
  rw [Scan.resumeIn_bind, Scan.resumeIn_report, hopening]
  dsimp only
  rw [Scan.resumeIn_bind, Scan.resumeIn_bind, Scan.resumeIn_ofExcept, hwalk]
  dsimp only
  rw [Scan.resumeIn_bind]
  rcases (w.files.mapM (scanFile t root)).resumeIn circumstances (Scanner.opening .routers) with
    ⟨fault | found, messages⟩
  · rfl
  · dsimp only
    rw [Scan.resumeIn_bind, Scan.resumeIn_ofExcept]
    rcases w.finish with fault | ⟨⟩ <;> rfl

/-- A scan that was cancelled stops in front of the first script. -/
theorem resume_discover_of_walk {first : Path} {rest : List Path} {fault? : Option FileFault}
    (hwalk : Source.walk t root scripts = .ok ⟨first :: rest, fault?⟩) :
    (discover t root).resume (some 0) [] = (.error .cancelled, Scanner.opening .routers) := by
  have hscript : (scanFile t root first).resume (some 0) (Scanner.opening .routers) =
      (.error .cancelled, Scanner.opening .routers) := by
    unfold scanFile
    exact Scan.resume_check_bind (Nat.zero_le _) _
  rw [Scan.resume, resumeIn_discover_eq hwalk, Scan.resumeIn_mapM_of_error hscript rest]

/-- Without scripts, whether a scan was cancelled makes no difference, and there are no routes. -/
theorem resume_discover_of_no_files
    (h : ¬ Scanner.HasWork .routers t root) (cancelAfter : Option Nat) :
    (discover t root).resume cancelAfter [] = (discover t root).resume none [] ∧
      ∀ routes messages, (discover t root).resume cancelAfter [] = (.ok routes, messages) →
        routes = [] := by
  cases hwalk : Source.walk t root scripts with
  | error fault =>
    unfold discover Source.forEach
    rw [hwalk]
    exact ⟨rfl, fun routes messages hrun => by cases hrun⟩
  | ok w =>
    obtain ⟨_ | ⟨first, rest⟩, fault?⟩ := w
    · rw [Scan.resume, Scan.resume, resumeIn_discover_eq hwalk, resumeIn_discover_eq hwalk]
      rw [List.mapM_nil, Scan.resumeIn_pure, Scan.resumeIn_pure]
      refine ⟨rfl, fun routes messages hrun => ?_⟩
      cases fault? with
      | none =>
        cases hrun
        rfl
      | some fault => cases hrun
    · exact absurd ⟨first, rest, fault?, hwalk⟩ h

end Routers

namespace Scanner

variable {scanner : Scanner} {t : FileTree} {root : Path}

/-- With something to go through, a scan that was cancelled reports its opening and stops. -/
theorem resume_scan_of_hasWork (h : scanner.HasWork t root) :
    (scanner.scan t root).resume (some 0) [] = (.error .cancelled, scanner.opening) := by
  cases scanner with
  | controllers =>
    obtain ⟨first, rest, hfiles⟩ := h
    exact Controllers.resume_discover_of_files hfiles (List.cons_ne_nil first rest)
  | routers =>
    obtain ⟨first, rest, fault?, hwalk⟩ := h
    exact Routers.resume_discover_of_walk hwalk
  | idle => exact h.elim

/-- With nothing to go through, a scan does not notice a cancellation and finds no routes. -/
theorem resume_scan_of_not_hasWork (h : ¬ scanner.HasWork t root) (cancelAfter : Option Nat) :
    (scanner.scan t root).resume cancelAfter [] = (scanner.scan t root).resume none [] ∧
      ∀ routes messages, (scanner.scan t root).resume cancelAfter [] = (.ok routes, messages) →
        routes = [] := by
  cases scanner with
  | controllers => exact Controllers.resume_discover_of_no_files h cancelAfter
  | routers => exact Routers.resume_discover_of_no_files h cancelAfter
  | idle =>
    refine ⟨rfl, fun routes messages hrun => ?_⟩
    cases hrun
    rfl

end Scanner

/-! ## Discoveries -/

/-- An index that is built of no routes has none. -/
theorem routes_of_buildIndex_nil {project : Project} {time : Text} {i : Index}
    (h : buildIndex project time [] = .ok i) : i.routes = [] :=
  (Except.ok.inj (recordsFrom_of_buildIndex h)).symm

namespace Backend

variable {b : Backend} {t : FileTree} {root : Path} {time : Text}

theorem resume_discover_of_hasWork (h : b.HasWork t root) :
    (b.discover t root time).resume (some 0) [] = (.error .cancelled, b.scanner.opening) := by
  obtain ⟨canonical, hcanonical, hwork⟩ := h
  unfold discover
  rw [Scan.resume_bind, Scan.resume_ofExcept, hcanonical]
  dsimp only [Except.mapError]
  rw [Scan.resume_bind, Scanner.resume_scan_of_hasWork hwork]

theorem resume_discover_of_not_hasWork (h : ¬ b.HasWork t root) (cancelAfter : Option Nat) :
    (b.discover t root time).resume cancelAfter [] = (b.discover t root time).resume none [] ∧
      ∀ i messages, (b.discover t root time).resume cancelAfter [] = (.ok i, messages) →
        i.routes = [] := by
  unfold discover
  rw [Scan.resume_bind, Scan.resume_ofExcept, Scan.resume_bind, Scan.resume_ofExcept]
  cases hcanonical : t.canonical root with
  | error fault => exact ⟨rfl, fun i messages hrun => by cases hrun⟩
  | ok canonical =>
    have hidle : ¬ b.scanner.HasWork t canonical := fun hwork => h ⟨canonical, hcanonical, hwork⟩
    obtain ⟨hsame, hnone⟩ := Scanner.resume_scan_of_not_hasWork hidle cancelAfter
    have hmapped : (Except.ok canonical).mapError DiscoveryFault.looping = .ok canonical := rfl
    rw [hmapped]
    dsimp only
    rw [Scan.resume_bind, Scan.resume_bind, ← hsame]
    rcases hscan : (b.scanner.scan t canonical).resume cancelAfter [] with ⟨fault | routes, messages⟩
    · exact ⟨rfl, fun i messages hrun => by cases hrun⟩
    · obtain rfl := hnone routes messages hscan
      dsimp only
      rw [Scan.resume_ofExcept, Scan.resume_ofExcept]
      refine ⟨rfl, fun i messages hrun => ?_⟩
      rw [Prod.mk.injEq, Except.mapError_eq_ok] at hrun
      exact routes_of_buildIndex_nil hrun.1

end Backend

namespace Store

/-- An index that is returned was discovered. -/
theorem discovered_of_returned {store : Store} {b : Backend} {time : Text}
    {cancelAfter : Option Nat} {t : FileTree} {i : Index}
    (h : ((store.discoverAndSave b time cancelAfter).run t).1.result = .ok i) :
    ∃ messages, (b.discover t store.root time).resume cancelAfter [] = (.ok i, messages) := by
  rw [run_discoverAndSave] at h
  generalize (b.discover t store.root time).resume cancelAfter [] = outcome at h ⊢
  obtain ⟨fault | j, messages⟩ := outcome
  · cases h
  · dsimp only at h
    generalize (store.save j).run.run t = saved at h
    obtain ⟨fault | ⟨⟩, u⟩ := saved
    · cases h
    · obtain rfl : j = i := Except.ok.inj h
      exact ⟨messages, rfl⟩

/-- **A discovery that is cancelled beforehand stops in front of the first piece of work.** If there
is one, a project or a script, then its opening is reported, it ends as a cancelled discovery and
the tree stays exactly as it was. If there is none, the discovery is the uncancelled one in
everything it reports, results in and does, and it never ends as a cancelled one; an index that it
then returns has no routes, and has been saved. -/
theorem discoverAndSave_precancelled (store : Store) (b : Backend) (time : Text) (t : FileTree) :
    (b.HasWork t store.root →
      (store.discoverAndSave b time (some 0)).run t =
        (⟨b.scanner.opening, .error (.discovery .cancelled)⟩, t)) ∧
    (¬ b.HasWork t store.root →
      (store.discoverAndSave b time (some 0)).run t = (store.discoverAndSave b time).run t ∧
      ((store.discoverAndSave b time (some 0)).run t).1.result ≠ .error (.discovery .cancelled) ∧
      ∀ i, ((store.discoverAndSave b time (some 0)).run t).1.result = .ok i →
        i.routes = [] ∧
        (store.save i).run.run t =
          (.ok (), ((store.discoverAndSave b time (some 0)).run t).2)) := by
  constructor
  · intro hwork
    rw [run_discoverAndSave, Backend.resume_discover_of_hasWork hwork]
  · intro hidle
    have hsame : (b.discover t store.root time).resume (some 0) [] =
        (b.discover t store.root time).resume none [] :=
      (Backend.resume_discover_of_not_hasWork hidle (some 0)).1
    have hrun : (store.discoverAndSave b time (some 0)).run t =
        (store.discoverAndSave b time).run t := by
      rw [run_discoverAndSave, run_discoverAndSave, hsame]
    refine ⟨hrun, ?_, fun i hi => ⟨?_, (discoverAndSave_returned hi).2⟩⟩
    · rw [hrun]
      exact result_discoverAndSave_ne_cancelled store b time t
    · obtain ⟨messages, hfound⟩ := discovered_of_returned hi
      exact (Backend.resume_discover_of_not_hasWork hidle (some 0)).2 i messages hfound

/-- A tree with one script, which is empty. -/
def scriptTree : FileTree where
  entries := [(["a.py".toList], .file [] 0o644)]
  distinct := by decide

/-- There, a discovery that is cancelled beforehand stops in front of the script. -/
theorem discoverAndSave_precancelled_of_script :
    Backend.routers.HasWork scriptTree (standard ⟨.slash, []⟩).root ∧
      ((standard ⟨.slash, []⟩).discoverAndSave .routers [] (some 0)).run scriptTree =
        (⟨["Discovering Python web routes...".toList], .error (.discovery .cancelled)⟩,
          scriptTree) := by
  have hwalk : Source.walk scriptTree ⟨.slash, []⟩ Routers.scripts =
      .ok ⟨[⟨.slash, ["a.py".toList]⟩], none⟩ := by cbv
  have hcanonical : scriptTree.canonical ⟨.slash, []⟩ = .ok ⟨.slash, []⟩ := by cbv
  have hwork : Backend.routers.HasWork scriptTree (standard ⟨.slash, []⟩).root :=
    ⟨⟨.slash, []⟩, hcanonical, _, _, _, hwalk⟩
  exact ⟨hwork, (discoverAndSave_precancelled (standard ⟨.slash, []⟩) .routers [] scriptTree).1
    hwork⟩

/-- In a tree that holds nothing, a discovery that is cancelled beforehand returns an index, and has
saved it. -/
theorem discoverAndSave_precancelled_of_nothing :
    ∃ messages u,
      ((standard ⟨.slash, []⟩).discoverAndSave .routers [] (some 0)).run {} =
        (⟨messages, .ok emptyIndex⟩, u) ∧
      (standard ⟨.slash, []⟩).load u = .ok emptyIndex := by
  have hfiles : Source.files {} ⟨.slash, []⟩ Routers.scripts = .ok [] := by cbv
  have hidle : ¬ Backend.routers.HasWork {} ⟨.slash, []⟩ := by
    rintro ⟨canonical, hcanonical, first, rest, fault?, hfound⟩
    obtain rfl : canonical = ⟨.slash, []⟩ := by
      have hslash : FileTree.canonical {} ⟨.slash, []⟩ = .ok ⟨.slash, []⟩ := by cbv
      exact Except.ok.inj (hcanonical.symm.trans hslash)
    rw [Source.files_eq_ok_iff.mp hfiles] at hfound
    cases hfound
  have hfound := resume_discover_of_no_scripts hfiles
  rw [← (Backend.resume_discover_of_not_hasWork hidle (some 0)).1] at hfound
  obtain ⟨u, hsave, hdirectory⟩ := exists_save_emptyIndex
  have hroot : (standard ⟨.slash, []⟩).root = ⟨.slash, []⟩ := rfl
  rw [run_discoverAndSave, hroot]
  generalize (Backend.routers.discover {} ⟨.slash, []⟩ []).resume (some 0) [] = outcome at hfound ⊢
  obtain ⟨result, messages⟩ := outcome
  obtain rfl : result = .ok emptyIndex := hfound
  dsimp only
  have hversion : emptyIndex.version = schemaVersion := rfl
  refine ⟨messages, u, ?_, load_of_save hsave hversion hdirectory⟩
  rw [hsave]

end Store

end RouteAtlas
