import Mathlib.Data.List.Induction
import Mathlib.Data.List.Nodup
import RouteAtlas.Routers.Router

/-!
# The routers of a script

The routers of a script are those that its variables hold at its end: for each variable that some
statement of the script assigns a router, what the last such statement assigns
(`mem_routersIn_iff`), and one router for each variable (`nodup_name_routersIn`).

Routers are kept in a list while the statements are gone through, and what a statement makes is put
there in the place of what its variable held. The invariant is that no two routers of the list have
one name, and with it a router that is put replaces exactly one other or none (`mem_put_iff`). A
statement may assign one router to several variables, or to one variable twice; what it makes for
one variable is the same each time, so the order does not matter within a statement.
-/

namespace RouteAtlas.Routers

open Script

/-! ## Assignments -/

/-- The statement assigns the router to its variable. -/
def Router.IsAssignedBy (r : Router) (s : Statement) : Prop :=
  ∃ targets value, s = .assignment r.line targets value ∧ .name r.name ∈ targets ∧
    basePath? value = some r.base

/-- The variable of the router is assigned it, and no router behind that. -/
def Router.IsHeldAfter (r : Router) (script : List Statement) : Prop :=
  ∃ before s after, script = before ++ s :: after ∧ r.IsAssignedBy s ∧
    ∀ later ∈ after, ∀ other : Router, other.IsAssignedBy later → other.name ≠ r.name

theorem variableOf?_eq_some_iff {e : Expr} {id : Text} :
    variableOf? e = some id ↔ e = .name id := by
  constructor
  · intro h
    cases e with
    | name => cases h; rfl
    | _ => cases h
  · rintro rfl
    rfl

/-- The routers that a statement makes are those that it assigns to some variable. -/
theorem mem_madeBy_iff {r : Router} {s : Statement} : r ∈ madeBy s ↔ r.IsAssignedBy s := by
  constructor
  · intro h
    unfold madeBy at h
    split at h
    next line targets value =>
      split at h
      next base hbase =>
        obtain ⟨id, hid, rfl⟩ := List.mem_map.mp h
        obtain ⟨target, htarget, hvariable⟩ := List.mem_filterMap.mp hid
        rw [variableOf?_eq_some_iff.mp hvariable] at htarget
        exact ⟨targets, value, rfl, htarget, hbase⟩
      next => cases h
    next => cases h
  · rintro ⟨targets, value, rfl, htarget, hbase⟩
    unfold madeBy
    simp only [hbase]
    exact List.mem_map.mpr ⟨r.name, List.mem_filterMap.mpr ⟨_, htarget, rfl⟩, rfl⟩

/-- A statement assigns all its variables the same. -/
theorem eq_of_mem_madeBy {q r : Router} {s : Statement} (hq : q ∈ madeBy s) (hr : r ∈ madeBy s)
    (hname : q.name = r.name) : q = r := by
  obtain ⟨targets, value, rfl, -, hbase⟩ := mem_madeBy_iff.mp hq
  obtain ⟨targets, value, hs, -, hother⟩ := mem_madeBy_iff.mp hr
  obtain ⟨name, base, line⟩ := q
  obtain ⟨name', base', line'⟩ := r
  cases hs
  cases hname
  rw [hbase] at hother
  cases hother
  rfl

/-! ## Putting routers in place -/

section Put

variable {r s : Router} {routers made : List Router}

/-- A variable keeps its place when it is assigned anew. -/
theorem map_name_put (r : Router) (routers : List Router) :
    (put r routers).map (·.name) =
      if r.name ∈ routers.map (·.name) then routers.map (·.name)
      else routers.map (·.name) ++ [r.name] := by
  induction routers with
  | nil => rfl
  | cons s routers ih =>
    rw [put]
    by_cases hs : s.name = r.name
    · rw [if_pos hs, if_pos (List.mem_map.mpr ⟨s, List.mem_cons_self, hs⟩), List.map_cons,
        List.map_cons, hs]
    · rw [if_neg hs, List.map_cons, ih, List.map_cons]
      simp only [List.mem_cons, Ne.symm hs, false_or]
      split <;> rfl

theorem nodup_name_put (h : (routers.map (·.name)).Nodup) :
    ((put r routers).map (·.name)).Nodup := by
  rw [map_name_put]
  split
  · exact h
  next hr => exact List.concat_eq_append ▸ List.Nodup.concat hr h

/-- A router that is put replaces the one of its variable, and no other one. -/
theorem mem_put_iff (h : (routers.map (·.name)).Nodup) :
    s ∈ put r routers ↔ s = r ∨ s ∈ routers ∧ s.name ≠ r.name := by
  induction routers with
  | nil => simp [put]
  | cons q routers ih =>
    obtain ⟨hq, hrest⟩ := List.nodup_cons.mp h
    rw [put]
    by_cases hname : q.name = r.name
    · -- No router behind it has the same variable.
      have hother : ∀ s ∈ routers, s.name ≠ r.name := fun s hs hsame =>
        hq (List.mem_map.mpr ⟨s, hs, hsame.trans hname.symm⟩)
      rw [if_pos hname, List.mem_cons, List.mem_cons]
      refine or_congr_right ⟨fun hs => ⟨.inr hs, hother s hs⟩, ?_⟩
      rintro ⟨rfl | hs, hne⟩
      · exact absurd hname hne
      · exact hs
    · rw [if_neg hname, List.mem_cons, List.mem_cons, ih hrest]
      constructor
      · rintro (rfl | rfl | ⟨hs, hne⟩)
        · exact .inr ⟨.inl rfl, hname⟩
        · exact .inl rfl
        · exact .inr ⟨.inr hs, hne⟩
      · rintro (rfl | ⟨rfl | hs, hne⟩)
        · exact .inr (.inl rfl)
        · exact .inl rfl
        · exact .inr (.inr ⟨hs, hne⟩)

theorem nodup_name_foldl_put (made : List Router) (h : (routers.map (·.name)).Nodup) :
    ((made.foldl (fun routers r => put r routers) routers).map (·.name)).Nodup := by
  induction made generalizing routers with
  | nil => exact h
  | cons r made ih => exact ih (nodup_name_put h)

/-- Routers of one statement take the places of those with their names. -/
theorem mem_foldl_put_iff (hmade : ∀ q ∈ made, ∀ r ∈ made, q.name = r.name → q = r)
    (h : (routers.map (·.name)).Nodup) :
    s ∈ made.foldl (fun routers r => put r routers) routers ↔
      s ∈ made ∨ s ∈ routers ∧ ∀ q ∈ made, q.name ≠ s.name := by
  induction made generalizing routers with
  | nil => simp
  | cons r made ih =>
    rw [List.forall_mem_cons] at hmade
    have hrest : ∀ q ∈ made, ∀ r ∈ made, q.name = r.name → q = r := fun q hq =>
      (List.forall_mem_cons.mp (hmade.2 q hq)).2
    rw [List.foldl_cons, ih hrest (nodup_name_put h), mem_put_iff h, List.mem_cons,
      List.forall_mem_cons]
    -- What was put first stays unless its name comes again.
    constructor
    · rintro (hs | ⟨rfl | ⟨hs, hne⟩, hall⟩)
      · exact .inl (.inr hs)
      · exact .inl (.inl rfl)
      · exact .inr ⟨hs, Ne.symm hne, hall⟩
    · rintro ((rfl | hs) | ⟨hs, hne, hall⟩)
      · -- if its name comes again in the statement, so does the router itself
        by_cases hagain : ∃ q ∈ made, q.name = s.name
        · obtain ⟨q, hq, hname⟩ := hagain
          have heq : s = q := hmade.1 q (List.mem_cons_of_mem _ hq) hname.symm
          exact .inl (heq ▸ hq)
        · exact .inr ⟨.inl rfl, fun q hq hname => hagain ⟨q, hq, hname⟩⟩
      · exact .inl hs
      · exact .inr ⟨.inr ⟨hs, Ne.symm hne⟩, hall⟩

end Put

/-! ## Scripts -/

theorem routersIn_concat (script : List Statement) (s : Statement) :
    routersIn (script ++ [s]) =
      (madeBy s).foldl (fun routers r => put r routers) (routersIn script) := by
  simp only [routersIn, List.flatMap_append, List.flatMap_singleton, List.foldl_append]

theorem nodup_name_routersIn (script : List Statement) :
    ((routersIn script).map (·.name)).Nodup :=
  nodup_name_foldl_put _ List.nodup_nil

theorem isHeldAfter_concat_iff {r : Router} {script : List Statement} {s : Statement} :
    r.IsHeldAfter (script ++ [s]) ↔
      r.IsAssignedBy s ∨ r.IsHeldAfter script ∧
        ∀ other : Router, other.IsAssignedBy s → other.name ≠ r.name := by
  constructor
  · rintro ⟨before, at', after, hscript, hassigned, hafter⟩
    rcases List.eq_nil_or_concat after with rfl | ⟨after, last, rfl⟩
    · obtain ⟨-, hlast⟩ := List.append_inj' hscript rfl
      cases hlast
      exact .inl hassigned
    · rw [List.concat_eq_append, ← List.cons_append, ← List.append_assoc] at hscript
      obtain ⟨rfl, hlast⟩ := List.append_inj' hscript rfl
      cases hlast
      rw [List.concat_eq_append, List.forall_mem_append] at hafter
      exact .inr ⟨⟨before, at', after, rfl, hassigned, hafter.1⟩,
        hafter.2 s (List.mem_singleton_self s)⟩
  · rintro (hassigned | ⟨⟨before, at', after, rfl, hassigned, hafter⟩, hs⟩)
    · exact ⟨script, s, [], rfl, hassigned, fun later hlater => nomatch hlater⟩
    · refine ⟨before, at', after ++ [s], by simp, hassigned, ?_⟩
      rw [List.forall_mem_append]
      exact ⟨hafter, fun later hlater => List.mem_singleton.mp hlater ▸ hs⟩

/-- A variable that is ever assigned a router holds one at the end. -/
theorem exists_isHeldAfter_iff {id : Text} {script : List Statement} :
    (∃ r : Router, r.IsHeldAfter script ∧ r.name = id) ↔
      ∃ s ∈ script, ∃ r : Router, r.IsAssignedBy s ∧ r.name = id := by
  constructor
  · rintro ⟨r, ⟨before, s, after, rfl, hassigned, -⟩, hname⟩
    exact ⟨s, by simp, r, hassigned, hname⟩
  intro h
  induction script using List.reverseRecOn with
  | nil =>
    obtain ⟨s, hs, -⟩ := h
    cases hs
  | append_singleton script s ih =>
    by_cases hlast : ∃ r : Router, r.IsAssignedBy s ∧ r.name = id
    · obtain ⟨r, hr, hname⟩ := hlast
      exact ⟨r, isHeldAfter_concat_iff.mpr (.inl hr), hname⟩
    · obtain ⟨t, ht, hassigned⟩ := h
      rcases List.mem_append.mp ht with ht | ht
      · obtain ⟨r, hr, hname⟩ := ih ⟨t, ht, hassigned⟩
        refine ⟨r, isHeldAfter_concat_iff.mpr (.inr ⟨hr, fun other hother hsame => ?_⟩), hname⟩
        exact hlast ⟨other, hother, hsame.trans hname⟩
      · exact absurd (List.mem_singleton.mp ht ▸ hassigned) hlast

/-- The routers of a script are those that its variables hold at its end. -/
theorem mem_routersIn_iff {r : Router} {script : List Statement} :
    r ∈ routersIn script ↔ r.IsHeldAfter script := by
  -- what is assigned last decides, so the induction is from the end of the script
  induction script using List.reverseRecOn with
  | nil =>
    constructor
    · intro h
      cases h
    · rintro ⟨before, s, after, hscript, -⟩
      cases before <;> cases hscript
  | append_singleton script s ih =>
    rw [routersIn_concat, mem_foldl_put_iff (fun q hq r hr => eq_of_mem_madeBy hq hr)
      (nodup_name_routersIn script), ih, isHeldAfter_concat_iff, mem_madeBy_iff]
    simp only [mem_madeBy_iff]

end RouteAtlas.Routers
