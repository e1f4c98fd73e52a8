import RouteAtlas.Backend.Registry
import RouteAtlas.Proofs.Text.Case

/-!
# Finding backends by their frameworks

Backends that are registered one after the other stand in the registry in that order, and none of
them leaves it (`prefix_registerAll`). A word finds a registered backend if that answers to it and
no backend in front does (`get_eq_ok_iff`). A backend answers to its own framework, unless there are
blanks around that: words lose theirs before they are compared, frameworks do not
(`answersTo_framework_iff`). But one in front, which has another framework, may answer to it as
well, by its name.
-/

namespace RouteAtlas

/-! ## Words -/

theorem Text.trim_sublist (s : Text) : (Text.trim s).Sublist s := by
  rw [trim, trimWhile, dropEndWhile]
  have hend := (List.dropWhile_sublist isBlank (l := (s.dropWhile isBlank).reverse)).reverse
  rw [List.reverse_reverse] at hend
  exact hend.trans (List.dropWhile_sublist isBlank)

/-- The word by which a text is looked up. -/
def lookupWord (s : Text) : Text := Text.lower (Text.trim s)

/-- The blanks around a text do not vanish in lower case. -/
theorem lookupWord_eq_lower_iff {s : Text} : lookupWord s = Text.lower s ↔ Text.trim s = s := by
  constructor
  · exact Text.eq_of_sublist_of_lower_eq s.trim_sublist
  · intro h
    rw [lookupWord, h]

namespace Backend

theorem answersTo_iff {b : Backend} {word : Text} :
    b.answersTo word = true ↔ word = b.key ∨ word = Text.lower b.name := by
  rw [answersTo, Bool.or_eq_true, beq_iff_eq, beq_iff_eq]

/-- A backend answers to its framework if there are no blanks around that, or else if it has the
rest for a name. -/
theorem answersTo_framework_iff {b : Backend} :
    b.answersTo (lookupWord b.framework) = true ↔
      Text.trim b.framework = b.framework ∨ Text.lower b.name = lookupWord b.framework := by
  rw [answersTo_iff, key, lookupWord_eq_lower_iff, eq_comm (b := Text.lower b.name)]

end Backend

/-! ## Registries -/

namespace Registry

/-- The registry after backends were to be registered, one after the other. One whose framework is
taken is refused, and then the registry stays as it is. -/
def registerAll (r : Registry) (bs : List Backend) : Registry :=
  bs.foldl (fun r b => (r.register b).toOption.getD r) r

variable {r r' : Registry} {b c : Backend} {bs earlier later : List Backend} {word : Text}

theorem register_eq_ok (h : r.register b = .ok r') : r'.backends = r.backends ++ [b] := by
  unfold register at h
  split at h
  next => cases h
  next => rw [← Except.ok.inj h]

/-- What is registered stays so, and what comes later stands behind it. -/
theorem prefix_registerAll (r : Registry) (bs : List Backend) :
    r.backends <+: (r.registerAll bs).backends := by
  induction bs generalizing r with
  | nil => exact List.prefix_rfl
  | cons b bs ih =>
    refine List.IsPrefix.trans ?_ (ih ((r.register b).toOption.getD r))
    cases hregister : r.register b with
    | error fault => exact List.prefix_rfl
    | ok r' => exact ⟨[b], (register_eq_ok hregister).symm⟩

/-- A backend whose registration has returned stands right behind those that were registered
before. -/
theorem exists_backends_registerAll (h : (r.register b).isOk = true) (bs : List Backend) :
    ∃ later, (r.registerAll (b :: bs)).backends = r.backends ++ b :: later := by
  cases hregister : r.register b with
  | error fault =>
    rw [hregister] at h
    cases h
  | ok r' =>
    obtain ⟨later, hlater⟩ := prefix_registerAll r' bs
    refine ⟨later, ?_⟩
    rw [registerAll, List.foldl_cons, hregister]
    rw [register_eq_ok hregister, List.append_assoc] at hlater
    exact hlater.symm

/-- Two backends of a registry have different frameworks. -/
theorem key_ne (h : r.backends = earlier ++ b :: later) (hc : c ∈ earlier) : c.key ≠ b.key := by
  have hdistinct := r.distinct
  rw [h, List.map_append, List.map_cons, List.nodup_append] at hdistinct
  exact hdistinct.2.2 c.key (List.mem_map_of_mem hc) b.key List.mem_cons_self

theorem get_eq_ok_iff_find? :
    r.get word = .ok b ↔ r.backends.find? (·.answersTo (lookupWord word)) = some b := by
  unfold get lookupWord
  dsimp only
  split
  next found hfound => rw [hfound, Except.ok.injEq, Option.some.injEq]
  next hnone =>
    rw [hnone]
    exact iff_of_false (fun h => by cases h) fun h => by cases h

/-- **A word finds a backend** if that answers to it and no backend in front of it does. -/
theorem get_eq_ok_iff (h : r.backends = earlier ++ b :: later) :
    r.get word = .ok b ↔ b.answersTo (lookupWord word) = true ∧
      ∀ c ∈ earlier, c.answersTo (lookupWord word) = false := by
  rw [get_eq_ok_iff_find?, h, List.find?_append]
  cases hearlier : earlier.find? (·.answersTo (lookupWord word)) with
  | some c =>
    -- What is found in front is another backend.
    have hc := List.mem_of_find?_eq_some hearlier
    have hanswers := List.find?_some hearlier
    refine iff_of_false ?_ fun hall => ?_
    · rintro hfound
      cases hfound
      exact key_ne h hc rfl
    · rw [hall.2 c hc] at hanswers
      cases hanswers
  | none =>
    have hnone : ∀ c ∈ earlier, c.answersTo (lookupWord word) = false := by
      simpa using hearlier
    rw [Option.none_or, List.find?_cons]
    cases hanswers : b.answersTo (lookupWord word) with
    | true => exact iff_of_true rfl ⟨rfl, hnone⟩
    | false =>
      refine iff_of_false ?_ fun hall => by cases hall.1
      intro hfound
      have hfound := List.find?_some hfound
      rw [hanswers] at hfound
      cases hfound

end Registry

end RouteAtlas
