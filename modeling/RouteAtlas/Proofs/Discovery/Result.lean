import RouteAtlas.Proofs.Discovery.Scan

/-!
# What a scan results in

A scan that is not cancelled results in the same whatever was reported before it: `Scan.ResultsIn`.
The result of a scan is put together from the results of its steps as results are that come about
without any reports. What a step reports, the whole scan does (`Scan.Reports`), as long as it gets
there.

So the result of a scan can be found by following its text, with an equation for each way in which
scans are put together, and nothing has to be said of the reports in between. What a scan reports is
said by itself: a message is never taken back, because reports only grow.
-/

namespace RouteAtlas.Scan

variable {α β : Type} {scan : Scan α} {next : α → Scan β}
  {result : Except DiscoveryFault α} {later : α → Except DiscoveryFault β}

/-- The result of a scan that is not cancelled. -/
def ResultsIn (scan : Scan α) (result : Except DiscoveryFault α) : Prop :=
  ∀ reported, (scan.resume none reported).1 = result

/-- The result of a scan of a part: a fault of that part alone is one. -/
def attempted (result : Except DiscoveryFault α) :
    Except DiscoveryFault (Except DiscoveryFault α) :=
  match result with
  | .ok a => .ok (.ok a)
  | .error fault => if fault.isPartial then .ok (.error fault) else .error fault

namespace ResultsIn

theorem pure (a : α) : ResultsIn (Pure.pure a : Scan α) (.ok a) := by
  intro reported
  rfl

theorem report (message : Text) : ResultsIn (report message) (.ok ()) := by
  intro reported
  rfl

theorem ofExcept (result : Except DiscoveryFault α) : ResultsIn (ofExcept result) result := by
  intro reported
  rw [resume_ofExcept]

/-- Every script can be read to its end. -/
theorem endure (source : Text) : ResultsIn (endure source) (.ok ()) := by
  intro reported
  rfl

/-- A scan that is not cancelled does not notice that it looks for that. -/
theorem check : ResultsIn check (.ok ()) := by
  intro reported
  rw [resume_check]
  rfl

/-- The results come one after the other, as the scans do. -/
theorem bind (h : ResultsIn scan result) (hnext : ∀ a, ResultsIn (next a) (later a)) :
    ResultsIn (scan >>= next) (result >>= later) := by
  intro reported
  have hfirst := h reported
  rw [resume_bind]
  rcases hrun : scan.resume none reported with ⟨fault | a, messages⟩
  · rw [hrun] at hfirst
    obtain rfl : .error fault = result := hfirst
    rfl
  · rw [hrun] at hfirst
    obtain rfl : .ok a = result := hfirst
    exact hnext a messages

/-- A step that always succeeds makes no difference to the result. -/
theorem behind {a : α} {rest : Except DiscoveryFault β} (h : ResultsIn scan (.ok a))
    (hnext : ResultsIn (next a) rest) : ResultsIn (scan >>= next) rest := by
  intro reported
  have hfirst := h reported
  rw [resume_bind]
  rcases hrun : scan.resume none reported with ⟨found, messages⟩
  rw [hrun] at hfirst
  obtain rfl : found = .ok a := hfirst
  exact hnext messages

/-- Nothing comes behind a fault. -/
theorem ended {fault : DiscoveryFault} (h : ResultsIn scan (.error fault)) :
    ResultsIn (scan >>= next) (.error fault) := by
  intro reported
  have hfirst := h reported
  rw [resume_bind]
  rcases hrun : scan.resume none reported with ⟨found, messages⟩
  rw [hrun] at hfirst
  obtain rfl : found = .error fault := hfirst
  rfl

/-- A scan of a part results in its own result, unless that is a fault that ends the whole. -/
theorem attempt (h : ResultsIn scan result) : ResultsIn scan.attempt (attempted result) := by
  intro reported
  have hfirst := h reported
  rw [resume_attempt]
  rcases hrun : scan.resume none reported with ⟨fault | a, messages⟩
  · rw [hrun] at hfirst
    obtain rfl : .error fault = result := hfirst
    rfl
  · rw [hrun] at hfirst
    obtain rfl : .ok a = result := hfirst
    rfl

/-- The results of many scans are those of each of them, in their order. -/
theorem mapM {items : List β} {step : β → Scan α} {found : β → Except DiscoveryFault α}
    (h : ∀ item, ResultsIn (step item) (found item)) :
    ResultsIn (items.mapM step) (items.mapM found) := by
  induction items with
  | nil => exact .pure []
  | cons item items ih =>
    rw [List.mapM_cons, List.mapM_cons]
    exact .bind (h item) fun first => .bind ih fun rest => .pure (first :: rest)

/-- Scans without results have none together. -/
theorem forM {items : List β} {step : β → Scan Unit} (h : ∀ item, ResultsIn (step item) (.ok ())) :
    ResultsIn (items.forM step) (.ok ()) := by
  induction items with
  | nil => exact .pure ()
  | cons item items ih => exact .behind (h item) ih

/-- Work on source files results in what the work on them does, as far as the walk goes through. -/
theorem forEach {t : FileTree} {root : Path} {wanted : Source.Wanted} {work : Path → Scan α}
    {found : Path → Except DiscoveryFault α} (h : ∀ file, ResultsIn (work file) (found file)) :
    ResultsIn (Source.forEach t root wanted work) (do
      let w ← Source.walk t root wanted
      let found ← w.files.mapM found
      w.finish
      Pure.pure found) :=
  .bind (.ofExcept _) fun _ => .bind (.mapM h) fun found => .bind (.ofExcept _) fun _ => .pure found

end ResultsIn

/-- A scan that is not cancelled reports a message. -/
def Reports (scan : Scan α) (message : Text) : Prop :=
  ∀ reported, message ∈ (scan.resume none reported).2

namespace Reports

variable {message : Text}

theorem report (message : Text) : Reports (report message) message := by
  intro reported
  rw [resume_report]
  exact List.mem_append_right _ List.mem_cons_self

/-- What was reported stays reported. -/
theorem before (h : Reports scan message) (hnext : ∀ a, IsInterruptible (next a)) :
    Reports (scan >>= next) message := by
  intro reported
  have hfirst := h reported
  rw [resume_bind]
  rcases hrun : scan.resume none reported with ⟨fault | a, messages⟩
  · rw [hrun] at hfirst
    exact hfirst
  · rw [hrun] at hfirst
    exact ((hnext a).grows none messages).subset hfirst

/-- A scan goes on behind a step that succeeds. -/
theorem behind {a : α} (hscan : ResultsIn scan (.ok a)) (h : Reports (next a) message) :
    Reports (scan >>= next) message := by
  intro reported
  have hfirst := hscan reported
  rw [resume_bind]
  rcases hrun : scan.resume none reported with ⟨found, messages⟩
  rw [hrun] at hfirst
  obtain rfl : found = .ok a := hfirst
  exact h messages

/-- One of many scans reports it, if those before it come to an end. -/
theorem mapM {items : List β} {step : β → Scan α} {item : β} (hitem : item ∈ items)
    (h : Reports (step item) message) (hgrows : ∀ item, IsInterruptible (step item))
    (hsteps : ∀ item ∈ items, ∃ a, ResultsIn (step item) (.ok a)) :
    Reports (items.mapM step) message := by
  induction items with
  | nil => cases hitem
  | cons first items ih =>
    rw [List.forall_mem_cons] at hsteps
    rw [List.mapM_cons]
    rcases List.mem_cons.mp hitem with rfl | hlater
    · exact h.before fun a => .bind (.mapM hgrows) fun rest => .pure (a :: rest)
    · obtain ⟨a, ha⟩ := hsteps.1
      exact .behind ha ((ih hlater hsteps.2).before fun rest => .pure (a :: rest))

end Reports

end RouteAtlas.Scan
