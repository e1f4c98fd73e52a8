/-!
# Work that can fail

How a result of composed work comes about: each part of it has a result of its own. Work on several
things one after the other succeeds if it does on each of them (`exists_mapM_eq_ok`), and otherwise
it fails with the fault of one of them (`exists_of_mapM_eq_error`).

A result says which of the things it was found for (`eq_filterMap_of_mapM`), so that it does not
matter that the work stops at the first fault: if there is a result, there was no fault.
-/

namespace Except

variable {ε ε' α β : Type}

theorem bind_eq_ok {x : Except ε α} {f : α → Except ε β} {b : β} :
    x >>= f = .ok b ↔ ∃ a, x = .ok a ∧ f a = .ok b := by
  cases x with
  | error e => simp [bind, Except.bind]
  | ok a => simp [bind, Except.bind]

/-- Other words for a fault change nothing where there is none. -/
theorem mapError_eq_ok {x : Except ε α} {f : ε → ε'} {a : α} :
    x.mapError f = .ok a ↔ x = .ok a := by
  cases x with
  | error e =>
    constructor
    · intro h
      cases h
    · intro h
      cases h
  | ok b =>
    constructor
    · intro h
      cases h
      rfl
    · intro h
      cases h
      rfl

theorem exists_eq_ok_of_isOk {x : Except ε α} (h : x.isOk = true) : ∃ a, x = .ok a := by
  cases x with
  | error e => cases h
  | ok a => exact ⟨a, rfl⟩

theorem exists_eq_ok_of_any {x : Except ε α} {p : α → Bool} (h : x.toOption.any p = true) :
    ∃ a, x = .ok a ∧ p a = true := by
  cases x with
  | error e => cases h
  | ok a => exact ⟨a, rfl, h⟩

/-- Work that differs in its faults alone has the same results. -/
theorem eq_ok_of_toOption_eq {x : Except ε α} {y : Except ε' α} {a : α}
    (h : x.toOption = y.toOption) (hx : x = .ok a) : y = .ok a := by
  rw [hx] at h
  cases y with
  | error e => cases h
  | ok b =>
    cases h
    rfl

section MapM

variable {f g : α → Except ε β} {items : List α} {results : List β}

/-- Work on several things succeeds if it does on each of them. -/
theorem exists_mapM_eq_ok (h : ∀ a ∈ items, ∃ b, f a = .ok b) :
    ∃ results, items.mapM f = .ok results := by
  induction items with
  | nil => exact ⟨[], rfl⟩
  | cons a items ih =>
    rw [List.forall_mem_cons] at h
    obtain ⟨b, hb⟩ := h.1
    obtain ⟨results, hresults⟩ := ih h.2
    exact ⟨b :: results, by rw [List.mapM_cons, hb, hresults]; rfl⟩

theorem mapM_eq_ok_map {found : α → β} (h : ∀ a ∈ items, f a = .ok (found a)) :
    items.mapM f = .ok (items.map found) := by
  induction items with
  | nil => rfl
  | cons a items ih =>
    rw [List.forall_mem_cons] at h
    rw [List.mapM_cons, h.1, ih h.2]
    rfl

/-- Each result comes of something. -/
theorem exists_of_mem_mapM (h : items.mapM f = .ok results) {b : β} (hb : b ∈ results) :
    ∃ a ∈ items, f a = .ok b := by
  induction items generalizing results with
  | nil =>
    cases h
    cases hb
  | cons a items ih =>
    rw [List.mapM_cons] at h
    obtain ⟨first, hfirst, h⟩ := bind_eq_ok.mp h
    obtain ⟨rest, hrest, h⟩ := bind_eq_ok.mp h
    cases h
    rcases List.mem_cons.mp hb with rfl | hlater
    · exact ⟨a, List.mem_cons_self, hfirst⟩
    · obtain ⟨a', ha', heq⟩ := ih hrest hlater
      exact ⟨a', List.mem_cons_of_mem a ha', heq⟩

/-- Where work on several things succeeds, it does on each of them. -/
theorem exists_of_mapM_eq_ok (h : items.mapM f = .ok results) : ∀ a ∈ items, ∃ b, f a = .ok b := by
  induction items generalizing results with
  | nil => exact fun a ha => by cases ha
  | cons a items ih =>
    rw [List.mapM_cons] at h
    obtain ⟨first, hfirst, h⟩ := bind_eq_ok.mp h
    obtain ⟨rest, hrest, -⟩ := bind_eq_ok.mp h
    exact List.forall_mem_cons.mpr ⟨⟨first, hfirst⟩, ih hrest⟩

/-- The results are those that the single things have. -/
theorem eq_filterMap_of_mapM (h : items.mapM f = .ok results) :
    results = items.filterMap fun a => (f a).toOption := by
  induction items generalizing results with
  | nil =>
    cases h
    rfl
  | cons a items ih =>
    rw [List.mapM_cons] at h
    obtain ⟨first, hfirst, h⟩ := bind_eq_ok.mp h
    obtain ⟨rest, hrest, h⟩ := bind_eq_ok.mp h
    cases h
    rw [List.filterMap_cons, hfirst, ih hrest]
    rfl

/-- The fault of the whole is the fault of one of them. -/
theorem exists_of_mapM_eq_error {e : ε} (h : items.mapM f = .error e) :
    ∃ a ∈ items, f a = .error e := by
  induction items with
  | nil => cases h
  | cons a items ih =>
    cases ha : f a with
    | error fault =>
      rw [List.mapM_cons, ha] at h
      cases h
      exact ⟨a, List.mem_cons_self, ha⟩
    | ok b =>
      cases hrest : items.mapM f with
      | error fault =>
        rw [List.mapM_cons, ha, hrest] at h
        cases h
        obtain ⟨a', ha', heq⟩ := ih hrest
        exact ⟨a', List.mem_cons_of_mem a ha', heq⟩
      | ok rest =>
        rw [List.mapM_cons, ha, hrest] at h
        cases h

/-- Work that is the same on each of several things is the same on all of them. -/
theorem mapM_congr (h : ∀ a ∈ items, f a = g a) : items.mapM f = items.mapM g := by
  induction items with
  | nil => rfl
  | cons a items ih =>
    rw [List.forall_mem_cons] at h
    rw [List.mapM_cons, List.mapM_cons, h.1, ih h.2]

end MapM

end Except
