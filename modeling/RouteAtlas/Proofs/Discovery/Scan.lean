import RouteAtlas.Discovery.Controllers
import RouteAtlas.Discovery.Routers

/-!
# Cancelled scans

A scan that is cancelled either takes the whole course of the uncancelled one, or it ends somewhere
on that course with the fault of a cancelled scan: `Scan.IsInterruptible`. The faults that a scan
recovers from are those of a part of the repository, so a scan of such a part hands a cancellation
on (`IsInterruptible.attempt`). Nothing else that a scan does looks at whether it was cancelled, and
so the scans of both backends are interruptible, put together from their steps
(`Controllers.isInterruptible_discover`, `Routers.isInterruptible_discover`).

What stands in the way of a scan is given by its circumstances: when it is cancelled, and which
texts exhaust the parser. Only the first of the two is varied here. The equations for the steps of a
scan come first, one for each way in which a scan can go on, and later modules rewrite with these
and never open a scan.

A cancellation is looked for in one place only (`check`), and it counts the messages that were
reported before. So an uncancelled scan never ends as a cancelled one, and whoever is patient for
longer than its messages sees nothing of a cancellation.
-/

namespace RouteAtlas

namespace Scan

variable {α β : Type} {scan : Scan α} {next : α → Scan β}

/-! ## The steps of a scan -/

section ResumeIn

variable (circumstances : Circumstances) (reported : List Text)

/-- A result is handed on, and nothing is reported. -/
theorem resumeIn_pure (a : α) :
    (pure a : Scan α).resumeIn circumstances reported = (.ok a, reported) := rfl

/-- A message is put behind those that were reported before. -/
theorem resumeIn_report (message : Text) :
    (report message).resumeIn circumstances reported = (.ok (), reported ++ [message]) := rfl

/-- The second scan goes on where the first one has come to, unless that has failed. -/
theorem resumeIn_bind (scan : Scan α) (next : α → Scan β) :
    (scan >>= next).resumeIn circumstances reported =
      match scan.resumeIn circumstances reported with
      | (.ok a, messages) => (next a).resumeIn circumstances messages
      | (.error fault, messages) => (.error fault, messages) := by
  unfold resumeIn
  rw [ReaderT.run_bind, ExceptT.run_bind, StateT.run_bind]
  rcases (ReaderT.run scan circumstances).run.run reported with ⟨_ | _, messages⟩ <;> rfl

/-- Whether it is cancelled depends on how much was reported. -/
theorem resumeIn_check :
    check.resumeIn circumstances reported =
      (if circumstances.cancelAfter.any (· ≤ reported.length) then .error .cancelled else .ok (),
        reported) := by
  have hcancelled : isCancelled.resumeIn circumstances reported =
      (.ok (circumstances.cancelAfter.any (· ≤ reported.length)), reported) := rfl
  unfold check
  rw [resumeIn_bind, hcancelled]
  dsimp only
  split <;> rfl

/-- A result that was known before is handed on, whichever it is. -/
theorem resumeIn_ofExcept (result : Except DiscoveryFault α) :
    (ofExcept result).resumeIn circumstances reported = (result, reported) := by
  cases result <;> rfl

/-- Only a source that the reader of scripts cannot read to its end makes a difference. -/
theorem resumeIn_endure (source : Text) :
    (endure source).resumeIn circumstances reported =
      match circumstances.exhausts source with
      | none => (.ok (), reported)
      | some cause => (.error (.exhausted cause), reported) := by
  have hasked : (read : Scan Circumstances).resumeIn circumstances reported =
      (.ok circumstances, reported) := rfl
  unfold endure
  rw [resumeIn_bind, hasked]
  dsimp only
  cases circumstances.exhausts source <;> rfl

end ResumeIn

theorem resume_pure (a : α) (cancelAfter : Option Nat) (reported : List Text) :
    (pure a : Scan α).resume cancelAfter reported = (.ok a, reported) := rfl

theorem resume_report (message : Text) (cancelAfter : Option Nat) (reported : List Text) :
    (report message).resume cancelAfter reported = (.ok (), reported ++ [message]) := rfl

theorem resume_bind (scan : Scan α) (next : α → Scan β) (cancelAfter : Option Nat)
    (reported : List Text) :
    (scan >>= next).resume cancelAfter reported =
      match scan.resume cancelAfter reported with
      | (.ok a, messages) => (next a).resume cancelAfter messages
      | (.error fault, messages) => (.error fault, messages) :=
  resumeIn_bind { cancelAfter } reported scan next

theorem resume_tryCatch (scan : Scan α) (handle : DiscoveryFault → Scan α)
    (cancelAfter : Option Nat) (reported : List Text) :
    (tryCatch scan handle).resume cancelAfter reported =
      match scan.resume cancelAfter reported with
      | (.ok a, messages) => (.ok a, messages)
      | (.error fault, messages) => (handle fault).resume cancelAfter messages := by
  unfold resume resumeIn ReaderT.run ExceptT.run
  simp only [tryCatch, tryCatchThe, MonadExceptOf.tryCatch, ExceptT.tryCatch, ExceptT.mk,
    StateT.run_bind]
  rcases StateT.run (scan { cancelAfter }) reported with ⟨_ | _, messages⟩ <;> rfl

theorem resume_check (cancelAfter : Option Nat) (reported : List Text) :
    check.resume cancelAfter reported =
      (if cancelAfter.any (· ≤ reported.length) then .error .cancelled else .ok (), reported) :=
  resumeIn_check { cancelAfter } reported

theorem resume_ofExcept (result : Except DiscoveryFault α) (cancelAfter : Option Nat)
    (reported : List Text) :
    (ofExcept result).resume cancelAfter reported = (result, reported) :=
  resumeIn_ofExcept { cancelAfter } reported result

/-- A scan of a part of the repository fails only where it is cancelled or breaks off. -/
theorem resume_attempt (scan : Scan α) (cancelAfter : Option Nat) (reported : List Text) :
    scan.attempt.resume cancelAfter reported =
      match scan.resume cancelAfter reported with
      | (.ok a, messages) => (.ok (.ok a), messages)
      | (.error fault, messages) =>
        (if fault.isPartial then .ok (.error fault) else .error fault, messages) := by
  unfold attempt
  rw [resume_tryCatch, resume_bind]
  rcases scan.resume cancelAfter reported with ⟨fault | a, messages⟩
  · dsimp only
    split <;> rfl
  · rfl

/-! ## Scans that can be cancelled -/

/-- How a scan takes a cancellation. -/
structure IsInterruptible (scan : Scan α) : Prop where
  /-- What was reported stays reported. -/
  grows : ∀ cancelAfter reported, reported <+: (scan.resume cancelAfter reported).2
  /-- The fault of a cancelled scan comes from nowhere else. -/
  uncancelled : ∀ reported, (scan.resume none reported).1 ≠ .error .cancelled
  /-- The scan ends on its way with that fault, once the messages are reported that it takes, or the
  cancellation comes too late to change anything. -/
  cut : ∀ patience reported,
    scan.resume (some patience) reported = scan.resume none reported ∨
    ∃ messages, scan.resume (some patience) reported = (.error .cancelled, messages) ∧
      patience ≤ messages.length ∧ messages <+: (scan.resume none reported).2

namespace IsInterruptible

/-- A step that does not check anything is not cut. -/
theorem of_resume_eq (result : Except DiscoveryFault α) (reports : List Text)
    (hresult : result ≠ .error .cancelled)
    (h : ∀ cancelAfter reported, scan.resume cancelAfter reported = (result, reported ++ reports)) :
    IsInterruptible scan where
  grows cancelAfter reported := by
    rw [h]
    exact List.prefix_append reported reports
  uncancelled reported := by
    rw [h]
    exact hresult
  cut patience reported := by
    left
    rw [h, h]

/-- What reports nothing and does not fail cannot be cut. -/
theorem pure (a : α) : IsInterruptible (Pure.pure a : Scan α) := by
  refine of_resume_eq (.ok a) [] (by simp) ?_
  intro cancelAfter reported
  rw [resume_pure, List.append_nil]

theorem report (message : Text) : IsInterruptible (report message) :=
  of_resume_eq (.ok ()) [message] (by simp) (resume_report message)

/-- What is known before is no matter of a cancellation, as long as it does not pretend to be one.
-/
theorem ofExcept {result : Except DiscoveryFault α} (h : result ≠ .error .cancelled) :
    IsInterruptible (ofExcept result) := by
  refine of_resume_eq result [] h ?_
  intro cancelAfter reported
  rw [resume_ofExcept, List.append_nil]

theorem endure (source : Text) : IsInterruptible (endure source) := by
  refine of_resume_eq (.ok ()) [] (by simp) ?_
  intro cancelAfter reported
  rw [List.append_nil]
  exact resumeIn_endure { cancelAfter } reported source

/-- A check is the one step that is cut. -/
theorem check : IsInterruptible check where
  grows cancelAfter reported := ⟨[], by rw [resume_check, List.append_nil]⟩
  uncancelled reported := by
    intro h
    rw [resume_check] at h
    cases h
  cut patience reported := by
    rw [resume_check, resume_check]
    by_cases h : patience ≤ reported.length
    · right
      exact ⟨reported, by simp [h], h, List.prefix_rfl⟩
    · left
      simp [h]

/-- Of two scans one after the other, either one may be cut. -/
theorem bind (hscan : IsInterruptible scan) (hnext : ∀ a, IsInterruptible (next a)) :
    IsInterruptible (scan >>= next) where
  grows cancelAfter reported := by
    have hfirst := hscan.grows cancelAfter reported
    rw [resume_bind]
    generalize scan.resume cancelAfter reported = outcome at hfirst ⊢
    obtain ⟨fault | a, messages⟩ := outcome
    · exact hfirst
    · exact hfirst.trans ((hnext a).grows cancelAfter messages)
  uncancelled reported := by
    have hfirst := hscan.uncancelled reported
    rw [resume_bind]
    generalize scan.resume none reported = outcome at hfirst ⊢
    obtain ⟨fault | a, messages⟩ := outcome
    · intro h
      exact hfirst (congrArg Except.error (Except.error.inj h))
    · exact (hnext a).uncancelled messages
  cut patience reported := by
    rw [resume_bind, resume_bind]
    rcases hscan.cut patience reported with hsame | ⟨messages, hcut, hpatience, hahead⟩
    · -- The first scan goes through, and the second one may be cut.
      rw [hsame]
      rcases scan.resume none reported with ⟨fault | a, messages⟩
      · exact .inl rfl
      · exact (hnext a).cut patience messages
    · -- The first scan is cut; the uncancelled one goes on and reports more.
      right
      rw [hcut]
      refine ⟨messages, rfl, hpatience, hahead.trans ?_⟩
      rcases scan.resume none reported with ⟨fault | a, whole⟩
      · exact List.prefix_rfl
      · exact (hnext a).grows none whole

/-- A scan of a part does not recover from being cancelled. -/
theorem attempt (hscan : IsInterruptible scan) : IsInterruptible scan.attempt where
  grows cancelAfter reported := by
    have hgrows := hscan.grows cancelAfter reported
    rw [resume_attempt]
    generalize scan.resume cancelAfter reported = outcome at hgrows ⊢
    obtain ⟨fault | a, messages⟩ := outcome
    · exact hgrows
    · exact hgrows
  uncancelled reported := by
    have huncancelled := hscan.uncancelled reported
    rw [resume_attempt]
    generalize scan.resume none reported = outcome at huncancelled ⊢
    obtain ⟨fault | a, messages⟩ := outcome
    · intro h
      dsimp only at h
      split at h
      · cases h
      · exact huncancelled (congrArg Except.error (Except.error.inj h))
    · intro h
      cases h
  cut patience reported := by
    rw [resume_attempt, resume_attempt]
    rcases hscan.cut patience reported with hsame | ⟨messages, hcut, hpatience, hahead⟩
    · -- What is recovered from is the same with and without the cancellation.
      left
      rw [hsame]
    · right
      rw [hcut]
      refine ⟨messages, rfl, hpatience, hahead.trans ?_⟩
      rcases scan.resume none reported with ⟨fault | a, whole⟩ <;> exact List.prefix_rfl

/-- Many scans one after the other. The induction is on what is left to be scanned. -/
theorem mapM {items : List β} {step : β → Scan α} (h : ∀ item, IsInterruptible (step item)) :
    IsInterruptible (items.mapM step) := by
  induction items with
  | nil => exact pure []
  | cons item items ih =>
    rw [List.mapM_cons]
    refine bind (h item) fun a => bind ih fun rest => pure (a :: rest)

theorem forM {items : List β} {step : β → Scan Unit} (h : ∀ item, IsInterruptible (step item)) :
    IsInterruptible (items.forM step) := by
  induction items with
  | nil => exact pure ()
  | cons item items ih => exact bind (h item) fun _ => ih

end IsInterruptible

end Scan

/-! ## Faults of sources -/

namespace Source

/-- The walk over the sources polls nothing. -/
theorem walk_ne_cancelled (tree : FileTree) (root : Path) (wanted : Wanted) :
    walk tree root wanted ≠ .error .cancelled := by
  intro h
  unfold walk at h
  cases hstatus : tree.status root with
  | error fault =>
    rw [hstatus] at h
    cases h
  | ok found =>
    obtain ⟨place, entry⟩ := found
    rw [hstatus] at h
    cases entry <;> cases h

/-- Where a walk breaks off, that is the fault. -/
theorem Walk.finish_ne_cancelled (w : Walk) : w.finish ≠ .error .cancelled := by
  intro h
  unfold finish at h
  split at h <;> cases h

theorem files_ne_cancelled (tree : FileTree) (root : Path) (wanted : Wanted) :
    files tree root wanted ≠ .error .cancelled := by
  intro h
  unfold files at h
  cases hwalk : walk tree root wanted with
  | error fault =>
    rw [hwalk] at h
    cases h
    exact walk_ne_cancelled tree root wanted hwalk
  | ok w =>
    rw [hwalk] at h
    cases hfinish : w.finish with
    | error fault =>
      dsimp only [bind, Except.bind] at h
      rw [hfinish] at h
      cases h
      exact w.finish_ne_cancelled hfinish
    | ok _ =>
      dsimp only [bind, Except.bind] at h
      rw [hfinish] at h
      cases h

/-- Work on source files can be cancelled as often as the work on one of them. -/
theorem isInterruptible_forEach {α : Type} (tree : FileTree) (root : Path) (wanted : Wanted)
    {work : Path → Scan α} (h : ∀ file, Scan.IsInterruptible (work file)) :
    Scan.IsInterruptible (forEach tree root wanted work) := by
  refine .bind (.ofExcept (walk_ne_cancelled tree root wanted)) fun w => ?_
  refine .bind (.mapM h) fun found => ?_
  exact .bind (.ofExcept w.finish_ne_cancelled) fun _ => .pure found

theorem read_ne_cancelled (tree : FileTree) (path : Path) :
    read tree path ≠ .error .cancelled := by
  intro h
  unfold read at h
  cases hread : Files.read tree path with
  | error fault =>
    rw [hread] at h
    cases h
  | ok bytes =>
    rw [hread] at h
    cases hdecode : Utf8.decodeMarked bytes with
    | error fault =>
      dsimp only [Except.mapError, bind, Except.bind] at h
      rw [hdecode] at h
      cases h
    | ok text =>
      dsimp only [Except.mapError, bind, Except.bind] at h
      rw [hdecode] at h
      cases h

theorem relative_ne_cancelled (tree : FileTree) (root path : Path) :
    relative tree root path ≠ .error .cancelled := by
  intro h
  unfold relative at h
  cases hseen : tree.seenFrom root path with
  | error fault =>
    rw [hseen] at h
    cases h
  | ok seen =>
    rw [hseen] at h
    cases h

end Source

/-! ## The scans of the backends -/

open Scan (IsInterruptible)

namespace Controllers

/-- A source is read after a look at whether the scan is cancelled. -/
theorem isInterruptible_scanFile (tree : FileTree) (projects : List Path) (project file : Path) :
    IsInterruptible (scanFile tree projects project file) := by
  refine .bind .check fun _ => ?_
  split
  · exact .pure []
  · refine .bind (.ofExcept (Source.read_ne_cancelled tree file)) fun source => ?_
    exact .pure (classesOf source file)

/-- A project: its sources, one after the other. -/
theorem isInterruptible_scanProject (tree : FileTree) (root : Path) (projects : List Path)
    (project : Path) : IsInterruptible (scanProject tree root projects project) := by
  refine .bind (.report _) fun _ => ?_
  refine .bind (Source.isInterruptible_forEach tree project sourceFiles
    (isInterruptible_scanFile tree projects project)) fun classes => ?_
  refine .bind (.report _) fun _ => ?_
  refine .bind (.mapM fun c => ?_) fun groups => ?_
  · refine .bind (.ofExcept (Source.relative_ne_cancelled tree root c.file)) fun file => ?_
    exact .pure _
  · refine .bind (.forM fun row => ?_) fun _ => .pure _
    obtain ⟨c, endpoints⟩ := row
    unfold reportEndpoints
    dsimp only
    split
    · exact .pure ()
    · exact .report _

/-- A project that fails is skipped, but not because the scan is cancelled. -/
theorem isInterruptible_scanProjectOrSkip (tree : FileTree) (root : Path) (projects : List Path)
    (project : Path) : IsInterruptible (scanProjectOrSkip tree root projects project) := by
  have hname : projectName tree root project ≠ .error .cancelled := by
    unfold projectName
    split
    · simp
    · exact Source.relative_ne_cancelled tree root project
  refine .bind .check fun _ => ?_
  refine .bind (.ofExcept hname) fun name => ?_
  refine .bind (isInterruptible_scanProject tree root projects project).attempt fun result => ?_
  cases result with
  | ok routes => exact .pure routes
  | error fault => exact .bind (.report _) fun _ => .pure []

/-- The scan for controllers can be cancelled between any two projects and any two files. -/
theorem isInterruptible_discover (tree : FileTree) (root : Path) :
    IsInterruptible (discover tree root) := by
  refine .bind (.report _) fun _ => ?_
  refine .bind (.ofExcept (Source.files_ne_cancelled tree root projectFiles)) fun files => ?_
  split
  · exact .bind (.report _) fun _ => .pure []
  · refine .bind (.mapM (isInterruptible_scanProjectOrSkip tree root _)) fun routes => ?_
    exact .bind (.report _) fun _ => .pure _

end Controllers

namespace Routers

theorem isInterruptible_readThrough (tree : FileTree) (path : Path) :
    IsInterruptible (readThrough tree path) := by
  unfold readThrough
  split
  · exact .endure _
  · exact .pure ()

/-- A script that fails is skipped, but not because the scan is cancelled. -/
theorem isInterruptible_scanFile (tree : FileTree) (root path : Path) :
    IsInterruptible (scanFile tree root path) := by
  refine .bind .check fun _ => ?_
  refine .bind (.ofExcept (Source.relative_ne_cancelled tree root path)) fun file => ?_
  refine .bind (isInterruptible_readThrough tree path) fun _ => ?_
  split
  · exact .bind (.report _) fun _ => .pure []
  · exact .pure []
  · exact .bind (.report _) fun _ => .pure _

/-- The scan for routers can be cancelled between any two scripts. -/
theorem isInterruptible_discover (tree : FileTree) (root : Path) :
    IsInterruptible (discover tree root) := by
  refine .bind (.report _) fun _ => ?_
  refine .bind (Source.isInterruptible_forEach tree root scripts
    (isInterruptible_scanFile tree root)) fun found => ?_
  exact .bind (.report _) fun _ => .pure _

end Routers

end RouteAtlas
