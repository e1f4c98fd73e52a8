import RouteAtlas.Discovery.Run
import RouteAtlas.Proofs.Discovery.Scan
import RouteAtlas.Proofs.Index.Build
import RouteAtlas.Proofs.Store.Saves

/-!
# One discovery

A discovery that is stored ends in one of three ways (`discoverAndSave_cases`): it finds no index
and leaves the tree alone, or its index is not saved, or its index is saved and returned. An index
that was discovered is of the current version and names the framework of its backend
(`parts_of_discover`), so the store loads it again.

If the discovery is cancelled, it either takes the whole course of the uncancelled one or stops in
front of the saving (`discoverAndSave_cancelled`): there is nothing in between that a partial index
could come from.

That a scan can be cut short is kept when scans are put together (`Scan.IsInterruptible`). Saving is
no scan. By then all messages have been reported (`messages_discoverAndSave`), so there is nothing
left that could be cancelled.
-/

namespace RouteAtlas

/-- An index that is built is of the current version, and of the project that it is built for. -/
theorem parts_of_buildIndex {project : Project} {time : Text} {routes : List Discovered}
    {i : Index} (h : buildIndex project time routes = .ok i) :
    i.version = schemaVersion ∧ i.project = project := by
  rw [buildIndex] at h
  obtain ⟨records, -, h⟩ := Except.bind_eq_ok.mp h
  split at h
  next index hparts =>
    cases h
    obtain ⟨hversion, -, hproject, -⟩ := Index.parts_of_ofParts? hparts
    exact ⟨hversion, hproject⟩
  next => cases h

/-- An index that is built can be written and read back, unless a line has too many digits for
that: the digits of an identifier are characters, and a path that is none is refused before. -/
theorem isEncodable_of_buildIndex {project : Project} {time : Text} {routes : List Discovered}
    {i : Index} (h : buildIndex project time routes = .ok i) :
    Json.isEncodable (Encode.index i) = routes.all fun d => Json.isEncodable (.int d.line) := by
  obtain ⟨hversion, -⟩ := parts_of_buildIndex h
  have hroutes := map_discovered_of_recordsFrom (recordsFrom_of_buildIndex h)
  have hcurrent : Json.isEncodable (.int schemaVersion) = true := by decide
  rw [Encode.isEncodable_index, hversion, hcurrent, Bool.true_and, ← hroutes, List.all_map]
  rfl

namespace Backend

open Scan (IsInterruptible)

/-- What a backend discovers is cut short by a cancellation, or not changed by it. -/
theorem isInterruptible_discover (b : Backend) (tree : FileTree) (root : Path) (time : Text) :
    IsInterruptible (b.discover tree root time) := by
  have hcanonical : (tree.canonical root).mapError DiscoveryFault.looping ≠ .error .cancelled := by
    cases tree.canonical root <;> simp [Except.mapError]
  have hbuild (project : Project) (routes : List Discovered) :
      (buildIndex project time routes).mapError DiscoveryFault.unbuilt ≠ .error .cancelled := by
    cases buildIndex project time routes <;> simp [Except.mapError]
  refine .bind (.ofExcept hcanonical) fun root => ?_
  refine .bind ?_ fun routes => .ofExcept (hbuild _ routes)
  unfold Scanner.scan
  split
  · exact Controllers.isInterruptible_discover tree root
  · exact Routers.isInterruptible_discover tree root
  · exact .pure []

/-- An index that a backend discovers is of the current version, and it names the framework of the
backend. -/
theorem parts_of_discover {b : Backend} {tree : FileTree} {root : Path} {time : Text}
    {cancelAfter : Option Nat} {reported messages : List Text} {i : Index}
    (h : (b.discover tree root time).resume cancelAfter reported = (.ok i, messages)) :
    i.version = schemaVersion ∧ i.project.framework = b.framework := by
  unfold discover at h
  rw [Scan.resume_bind, Scan.resume_ofExcept] at h
  split at h
  next =>
    rw [Scan.resume_bind] at h
    split at h
    next routes _ _ =>
      rw [Scan.resume_ofExcept, Prod.mk.injEq, Except.mapError_eq_ok] at h
      obtain ⟨hversion, hproject⟩ := parts_of_buildIndex h.1
      exact ⟨hversion, congrArg Project.framework hproject⟩
    next => cases h
  next => cases h

end Backend

namespace Store

variable {store : Store} {b : Backend} {time : Text} {cancelAfter : Option Nat} {t : FileTree}

/-- The index that was discovered is saved, and nothing is saved if none was. -/
theorem run_discoverAndSave (store : Store) (b : Backend) (time : Text) (cancelAfter : Option Nat)
    (t : FileTree) :
    (store.discoverAndSave b time cancelAfter).run t =
      match (b.discover t store.root time).resume cancelAfter [] with
      | (.error fault, messages) => (⟨messages, .error (.discovery fault)⟩, t)
      | (.ok i, messages) =>
        match (store.save i).run.run t with
        | (.ok (), u) => (⟨messages, .ok i⟩, u)
        | (.error fault, u) => (⟨messages, .error (.save fault)⟩, u) := by
  unfold discoverAndSave Scan.run
  rw [StateT.run_bind, StateT.run_get]
  dsimp only [pure, bind]
  rcases (b.discover t store.root time).resume cancelAfter [] with ⟨fault | i, messages⟩
  · rfl
  · show StateT.run ((store.save i).run >>= _) t = _
    rw [StateT.run_bind]
    dsimp only
    rcases (store.save i).run.run t with ⟨fault | ⟨⟩, u⟩ <;> rfl

/-- What becomes of a discovery: no index is found and the tree stays as it is, or one is found and
not saved, or one is found, saved and returned. -/
theorem discoverAndSave_cases (store : Store) (b : Backend) (time : Text)
    (cancelAfter : Option Nat) (t : FileTree) :
    (∃ messages fault, (store.discoverAndSave b time cancelAfter).run t =
      (⟨messages, .error (.discovery fault)⟩, t)) ∨
    ∃ messages, ∃ i : Index, ∃ u, i.version = schemaVersion ∧
      ((∃ fault, (store.save i).run.run t = (.error fault, u) ∧
          (store.discoverAndSave b time cancelAfter).run t =
            (⟨messages, .error (.save fault)⟩, u)) ∨
        (store.save i).run.run t = (.ok (), u) ∧
          (store.discoverAndSave b time cancelAfter).run t = (⟨messages, .ok i⟩, u)) := by
  rw [run_discoverAndSave]
  rcases hdiscover : (b.discover t store.root time).resume cancelAfter [] with ⟨fault | i, messages⟩
  · exact .inl ⟨messages, fault, rfl⟩
  · obtain ⟨hversion, -⟩ := Backend.parts_of_discover hdiscover
    dsimp only
    rcases hsave : (store.save i).run.run t with ⟨fault | ⟨⟩, u⟩
    · exact .inr ⟨messages, i, u, hversion, .inl ⟨fault, hsave, rfl⟩⟩
    · exact .inr ⟨messages, i, u, hversion, .inr ⟨hsave, rfl⟩⟩

/-- An index that a discovery returns is of the current version, and it is saved. -/
theorem discoverAndSave_returned {i : Index}
    (h : ((store.discoverAndSave b time cancelAfter).run t).1.result = .ok i) :
    i.version = schemaVersion ∧
      (store.save i).run.run t =
        (.ok (), ((store.discoverAndSave b time cancelAfter).run t).2) := by
  rcases discoverAndSave_cases store b time cancelAfter t with
    ⟨messages, fault, hrun⟩ | ⟨messages, j, u, hversion, ⟨fault, -, hrun⟩ | ⟨hsave, hrun⟩⟩
  · rw [hrun] at h
    cases h
  · rw [hrun] at h
    cases h
  · rw [hrun] at h ⊢
    obtain rfl : j = i := Except.ok.inj h
    exact ⟨hversion, hsave⟩

/-- A discovery that is never cancelled does not end as if it had been. -/
theorem result_discoverAndSave_ne_cancelled (store : Store) (b : Backend) (time : Text)
    (t : FileTree) :
    ((store.discoverAndSave b time).run t).1.result ≠ .error (.discovery .cancelled) := by
  have hdiscover := (b.isInterruptible_discover t store.root time).uncancelled []
  intro h
  rw [run_discoverAndSave] at h
  generalize (b.discover t store.root time).resume none [] = outcome at h hdiscover
  obtain ⟨fault | i, messages⟩ := outcome
  · have hfault : fault = .cancelled := by simpa using h
    exact hdiscover (congrArg Except.error hfault)
  · dsimp only at h
    generalize (store.save i).run.run t = saved at h
    obtain ⟨fault | ⟨⟩, u⟩ := saved <;> cases h

/-- All messages of a discovery are reported before anything is saved. -/
theorem messages_discoverAndSave (store : Store) (b : Backend) (time : Text)
    (cancelAfter : Option Nat) (t : FileTree) :
    ((store.discoverAndSave b time cancelAfter).run t).1.messages =
      ((b.discover t store.root time).resume cancelAfter []).2 := by
  rw [run_discoverAndSave]
  rcases (b.discover t store.root time).resume cancelAfter [] with ⟨fault | i, messages⟩
  · rfl
  · dsimp only
    rcases (store.save i).run.run t with ⟨fault | ⟨⟩, u⟩ <;> rfl

/-- **A cancelled discovery is all or nothing.** Either it does and reports what it would have done
and reported without being cancelled, or it ends with the fault of a cancelled scan and leaves the
tree exactly as it was; then it has reported the first messages of the whole run, and no fewer than
it takes to cancel it. An uncancelled run never ends with that fault, and a cancellation that comes
behind all of its messages changes nothing. An index that is returned is the one of the whole run;
it has been saved, and the store loads it as long as there is a way to its directory. -/
theorem discoverAndSave_cancelled (store : Store) (b : Backend) (time : Text) (patience : Nat)
    (t : FileTree) :
    ((store.discoverAndSave b time (some patience)).run t =
        (store.discoverAndSave b time).run t ∨
      ∃ messages,
        (store.discoverAndSave b time (some patience)).run t =
          (⟨messages, .error (.discovery .cancelled)⟩, t) ∧
        patience ≤ messages.length ∧
        messages <+: ((store.discoverAndSave b time).run t).1.messages) ∧
    ((store.discoverAndSave b time).run t).1.result ≠ .error (.discovery .cancelled) ∧
    (((store.discoverAndSave b time).run t).1.messages.length < patience →
      (store.discoverAndSave b time (some patience)).run t =
        (store.discoverAndSave b time).run t) ∧
    ∀ i, ((store.discoverAndSave b time (some patience)).run t).1.result = .ok i →
      ((store.discoverAndSave b time).run t).1.result = .ok i ∧
      (store.save i).run.run t =
        (.ok (), ((store.discoverAndSave b time (some patience)).run t).2) ∧
      (((store.discoverAndSave b time (some patience)).run t).2.isDirectory
          store.path.parent = true →
        store.load ((store.discoverAndSave b time (some patience)).run t).2 = .ok i) := by
  have hcut : (store.discoverAndSave b time (some patience)).run t =
        (store.discoverAndSave b time).run t ∨
      ∃ messages,
        (store.discoverAndSave b time (some patience)).run t =
          (⟨messages, .error (.discovery .cancelled)⟩, t) ∧
        patience ≤ messages.length ∧
        messages <+: ((store.discoverAndSave b time).run t).1.messages := by
    rcases (b.isInterruptible_discover t store.root time).cut patience [] with
      hsame | ⟨messages, hrun, hpatience, hahead⟩
    · left
      rw [run_discoverAndSave, run_discoverAndSave, hsame]
    · right
      refine ⟨messages, ?_, hpatience, ?_⟩
      · rw [run_discoverAndSave, hrun]
      · rw [messages_discoverAndSave]
        exact hahead
  refine ⟨hcut, result_discoverAndSave_ne_cancelled store b time t, ?_, ?_⟩
  · intro hlate
    rcases hcut with hsame | ⟨messages, -, hpatience, hahead⟩
    · exact hsame
    · -- A cut takes as many messages as the cancellation waits for, and there are not that many.
      exact absurd hahead.length_le (by omega)
  · intro i hi
    obtain ⟨hversion, hsave⟩ := discoverAndSave_returned hi
    refine ⟨?_, hsave, fun hdirectory => ?_⟩
    · rcases hcut with hsame | ⟨messages, hrun, -, -⟩
      · rw [← hsame]
        exact hi
      · rw [hrun] at hi
        cases hi
    · exact load_of_save hsave hversion hdirectory

/-- A tree in which a file stands where the directory of the index should be. -/
def blockedTree : FileTree where
  entries := [([".apimap".toList], .file [] 0o644)]
  distinct := by decide

/-- Whatever the index, it is not saved there. -/
theorem save_blockedTree (i : Index) :
    (rootStore.save i).run.run blockedTree =
      (.error ⟨rootStore.path,
        .files { reason := .existing, path := rootStore.path.parent }⟩, blockedTree) := by
  rw [save, DocumentFile.write, rootStore_path]
  generalize DocumentFile.bytesOf layout (Encode.index i) = contents
  cbv

/-- A discovery can come to nothing without being cancelled: then the saving has failed, and would
have failed in the whole run as well. -/
theorem discoverAndSave_of_blockedTree :
    ((rootStore.discoverAndSave .routers [] (some 5)).run blockedTree).1.result =
      .error (.save ⟨rootStore.path,
        .files { reason := .existing, path := rootStore.path.parent }⟩) := by
  have hroot : rootStore.root = ⟨.slash, []⟩ := rfl
  have hfound : ((Backend.routers.discover blockedTree ⟨.slash, []⟩ []).resume
      (some 5) []).1.isOk = true := by cbv
  rw [run_discoverAndSave, hroot]
  generalize (Backend.routers.discover blockedTree ⟨.slash, []⟩ []).resume (some 5) [] = outcome
    at hfound ⊢
  obtain ⟨fault | i, messages⟩ := outcome
  · cases hfound
  · dsimp only
    rw [save_blockedTree]

end Store

end RouteAtlas
