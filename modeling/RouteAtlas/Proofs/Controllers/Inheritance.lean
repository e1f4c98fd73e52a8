import Mathlib.Data.List.Basic
import Mathlib.Data.List.Flatten
import RouteAtlas.Controllers.Inheritance

/-!
# Which classes are found

A class is found if it is marked as a controller, or if a chain of base names leads from it to a
base of controllers: `LeadsToBase`. The search for such a chain follows no name twice, and it is
enough to show that one name more may be avoided from then on (`LeadsToBase.avoid`): what a chain
through that name can reach, the bases of its class reach as well, by a chain that has passed the
name for the last time. The search then answers exactly whether there is a chain
(`leadsToController_iff`), since the names that it still has to look at get fewer all the time.

The search avoids the name of the class that it starts from. For the first class of a name this
changes nothing, for its name leads only back to it. A later class of that name differs: its own
name would lead to the first one, and that way is closed (`findControllers_of_own_name`).
-/

namespace RouteAtlas.Controllers

variable {classes : List ClassDecl} {avoided : List Text} {name : Text}

/-! ## Chains of bases -/

/-- A name is a base of controllers, or a chain of base names leads from it to one. Each name on the
way is that of the first class so called, and none of them is to be avoided. -/
inductive LeadsToBase (classes : List ClassDecl) (avoided : List Text) : Text → Prop
  | reached {name : Text} (hbase : name ∈ controllerBases) : LeadsToBase classes avoided name
  | through {name next : Text} {parent : ClassDecl}
      (hparent : classNamed? classes name = some parent) (hfree : name ∉ avoided)
      (hnext : next ∈ parent.bases) (hleads : LeadsToBase classes avoided next) :
      LeadsToBase classes avoided name

/-- A chain of base names leads from a class to a base of controllers. -/
def ClassDecl.Inherits (classes : List ClassDecl) (avoided : List Text) (c : ClassDecl) : Prop :=
  ∃ base ∈ c.bases, LeadsToBase classes avoided base

/-- The class carries the attribute of controllers. -/
def ClassDecl.IsMarked (c : ClassDecl) : Prop := ∃ a ∈ c.attributes, a.name = controllerAttribute

/-- A chain that avoids some names avoids fewer of them, too. -/
theorem LeadsToBase.mono {fewer : List Text} (hfewer : fewer ⊆ avoided)
    (h : LeadsToBase classes avoided name) : LeadsToBase classes fewer name := by
  induction h with
  | reached hbase => exact .reached hbase
  | through hparent hfree hnext _ ih => exact .through hparent (fun hm => hfree (hfewer hm)) hnext ih

/-- A chain avoids one name more, or else it has a part behind that name that does. -/
theorem LeadsToBase.avoid {parent : ClassDecl} {other : Text}
    (hother : classNamed? classes other = some parent) (h : LeadsToBase classes avoided name) :
    LeadsToBase classes (other :: avoided) name ∨ parent.Inherits classes (other :: avoided) := by
  induction h with
  | reached hbase => exact .inl (.reached hbase)
  | @through name next between hbetween hfree hnext _ ih =>
    rcases ih with hleads | hpassed
    · by_cases hname : name = other
      · subst hname
        obtain rfl : between = parent := Option.some.inj (hbetween.symm.trans hother)
        exact .inr ⟨next, hnext, hleads⟩
      · exact .inl (.through hbetween (by simp [hname, hfree]) hnext hleads)
    · exact .inr hpassed

/-- Where a chain starts that does not end at once. -/
theorem LeadsToBase.inv (h : LeadsToBase classes avoided name) (hname : name ∉ controllerBases) :
    ∃ parent, classNamed? classes name = some parent ∧ name ∉ avoided ∧
      parent.Inherits classes avoided := by
  cases h with
  | reached hbase => exact absurd hbase hname
  | through hparent hfree hnext hleads => exact ⟨_, hparent, hfree, _, hnext, hleads⟩

/-- For the first class of a name it makes no difference if that name is avoided. -/
theorem ClassDecl.inherits_avoid_self {c : ClassDecl}
    (hfirst : classNamed? classes c.name = some c) :
    c.Inherits classes [c.name] ↔ c.Inherits classes [] := by
  constructor
  · rintro ⟨base, hbase, hleads⟩
    exact ⟨base, hbase, hleads.mono (List.nil_subset _)⟩
  · rintro ⟨base, hbase, hleads⟩
    rcases hleads.avoid hfirst with hleads | hpassed
    · exact ⟨base, hbase, hleads⟩
    · exact hpassed

/-! ## The search -/

/-- The number of bases of the classes whose names have not been seen. -/
def unseenBases (classes : List ClassDecl) (seen : List Text) : Nat :=
  baseCount (classes.filter fun c => !seen.contains c.name)

theorem name_of_classNamed? {parent : ClassDecl} (h : classNamed? classes name = some parent) :
    parent.name = name := by
  have hname := List.find?_some h
  simpa using hname

/-- The more names have been seen, the fewer bases are left. -/
theorem unseenBases_le {seen more : List Text} (h : seen ⊆ more) :
    unseenBases classes more ≤ unseenBases classes seen := by
  have hsub : (classes.filter fun c => !more.contains c.name).Sublist
      (classes.filter fun c => !seen.contains c.name) := by
    refine List.monotone_filter_right _ fun c hc => ?_
    simp only [Bool.not_eq_true', List.contains_eq_mem, decide_eq_false_iff_not] at hc ⊢
    exact fun hseen => hc (h hseen)
  exact (hsub.flatMap _).length_le

theorem unseenBases_le_baseCount (classes : List ClassDecl) (seen : List Text) :
    unseenBases classes seen ≤ baseCount classes := by
  have hsub : (classes.filter fun c => !seen.contains c.name).Sublist classes := List.filter_sublist
  exact (hsub.flatMap _).length_le

/-- Seeing the name of a class takes away its bases. -/
theorem unseenBases_cons_le {parent : ClassDecl} {seen : List Text} (hmem : parent ∈ classes)
    (hfree : parent.name ∉ seen) :
    unseenBases classes (parent.name :: seen) + parent.bases.length ≤ unseenBases classes seen := by
  obtain ⟨before, after, rfl⟩ := List.append_of_mem hmem
  have hfewer (some_ : List ClassDecl) :
      unseenBases some_ (parent.name :: seen) ≤ unseenBases some_ seen :=
    unseenBases_le (List.subset_cons_self _ _)
  have hsplit (seen : List Text) : unseenBases (before ++ parent :: after) seen =
      unseenBases before seen + (unseenBases [parent] seen + unseenBases after seen) := by
    rw [← List.singleton_append]
    simp only [unseenBases, baseCount, List.filter_append, List.flatMap_append, List.length_append]
  have hgone : unseenBases [parent] (parent.name :: seen) = 0 := by
    simp [unseenBases, baseCount]
  have hthere : unseenBases [parent] seen = parent.bases.length := by
    simp [unseenBases, baseCount, hfree]
  rw [hsplit, hsplit, hgone, hthere]
  have := hfewer before
  have := hfewer after
  omega

theorem leadsToController_nil (classes : List ClassDecl) (fuel : Nat) (seen : List Text) :
    leadsToController classes (fuel + 1) seen [] = false := rfl

/-- One step of the search. -/
theorem leadsToController_cons (classes : List ClassDecl) (fuel : Nat) (seen todo : List Text)
    (name : Text) :
    leadsToController classes (fuel + 1) seen (name :: todo) =
      if name ∈ controllerBases then true
      else match classNamed? classes name with
        | none => leadsToController classes fuel seen todo
        | some parent =>
          if name ∈ seen then leadsToController classes fuel seen todo
          else leadsToController classes fuel (name :: seen) (parent.bases ++ todo) := rfl

/-- The search finds a chain if there is one from any of the names that it has to look at. Each step
takes a name off, or puts the bases of a class in its place that were not seen before. -/
theorem leadsToController_iff (classes : List ClassDecl) {fuel : Nat} {seen todo : List Text}
    (hfuel : todo.length + unseenBases classes seen < fuel) :
    leadsToController classes fuel seen todo = true ↔
      ∃ name ∈ todo, LeadsToBase classes seen name := by
  induction fuel generalizing seen todo with
  | zero => omega
  | succ fuel ih =>
    cases todo with
    | nil => simp [leadsToController_nil]
    | cons name todo =>
      rw [List.length_cons] at hfuel
      rw [leadsToController_cons]
      by_cases hbase : name ∈ controllerBases
      · rw [if_pos hbase]
        exact iff_of_true rfl ⟨name, List.mem_cons_self, .reached hbase⟩
      rw [if_neg hbase]
      -- A name from which no chain starts is passed over.
      have hpass (hstuck : ¬ LeadsToBase classes seen name) :
          leadsToController classes fuel seen todo = true ↔
            ∃ next ∈ name :: todo, LeadsToBase classes seen next := by
        rw [ih (by omega)]
        simp [hstuck]
      cases hparent : classNamed? classes name with
      | none =>
        refine hpass fun hleads => ?_
        obtain ⟨parent, hsome, -⟩ := hleads.inv hbase
        rw [hparent] at hsome
        cases hsome
      | some parent =>
        dsimp only
        by_cases hseen : name ∈ seen
        · rw [if_pos hseen]
          refine hpass fun hleads => ?_
          obtain ⟨-, -, hfree, -⟩ := hleads.inv hbase
          exact hfree hseen
        rw [if_neg hseen]
        have hname := name_of_classNamed? hparent
        have hless := unseenBases_cons_le (List.mem_of_find?_eq_some hparent) (hname ▸ hseen)
        rw [hname] at hless
        rw [ih (by rw [List.length_append]; omega)]
        have hsub : seen ⊆ name :: seen := List.subset_cons_self name seen
        constructor
        · rintro ⟨next, hnext, hleads⟩
          rcases List.mem_append.mp hnext with hnext | hnext
          · exact ⟨name, List.mem_cons_self, .through hparent hseen hnext (hleads.mono hsub)⟩
          · exact ⟨next, List.mem_cons_of_mem _ hnext, hleads.mono hsub⟩
        · rintro ⟨next, hnext, hleads⟩
          have hpassed (h : parent.Inherits classes (name :: seen)) :
              ∃ next ∈ parent.bases ++ todo, LeadsToBase classes (name :: seen) next := by
            obtain ⟨base, hmem, hleads⟩ := h
            exact ⟨base, List.mem_append_left _ hmem, hleads⟩
          rcases hleads.avoid hparent with hleads | hinherits
          · rcases List.mem_cons.mp hnext with rfl | hnext
            · obtain ⟨-, -, hfree, -⟩ := hleads.inv hbase
              exact absurd List.mem_cons_self hfree
            · exact ⟨next, List.mem_append_right _ hnext, hleads⟩
          · exact hpassed hinherits

/-- A class is a controller if it is marked, or if a chain of bases that avoids its own name leads
to a base of controllers. -/
theorem isController_iff (classes : List ClassDecl) (c : ClassDecl) :
    c.isController classes = true ↔ c.IsMarked ∨ c.Inherits classes [c.name] := by
  have hfuel : c.bases.length + unseenBases classes [c.name] <
      c.bases.length + baseCount classes + 1 := by
    have hle := unseenBases_le_baseCount classes [c.name]
    omega
  rw [ClassDecl.isController, Bool.or_eq_true, leadsToController_iff classes hfuel]
  simp [ClassDecl.IsMarked, ClassDecl.Inherits]

/-! ## The classes found -/

/-- Where a class is declared. -/
def ClassDecl.place (c : ClassDecl) : Path × Nat := (c.file, c.line)

/-- Two classes are declared at one place. -/
def ClassDecl.sharesPlace (c other : ClassDecl) : Bool := c.place == other.place

theorem controllersFrom_eq (classes : List ClassDecl) (found : List (Path × Nat))
    (rest : List ClassDecl) :
    controllersFrom classes found rest =
      ((rest.filter (·.isController classes)).filter (·.place ∉ found)).eraseDupsBy
        ClassDecl.sharesPlace := by
  induction rest generalizing found with
  | nil => rfl
  | cons c rest ih =>
    rw [controllersFrom]
    by_cases hcontroller : c.isController classes = true
    · by_cases hfound : c.place ∈ found
      · rw [if_neg (fun h => h.1 hfound), ih, List.filter_cons_of_pos hcontroller,
          List.filter_cons_of_neg (by simpa using hfound)]
      · rw [if_pos ⟨hfound, hcontroller⟩, ih, List.filter_cons_of_pos hcontroller,
          List.filter_cons_of_pos (by simpa using hfound), List.eraseDupsBy_cons,
          List.filter_filter, List.filter_filter, List.filter_filter]
        congr 2
        refine List.filter_congr fun other _ => ?_
        rw [Bool.eq_iff_iff]
        simp only [ClassDecl.sharesPlace, Bool.and_eq_true, decide_eq_true_eq, List.mem_cons, not_or,
          beq_eq_false_iff_ne, ne_eq, and_assoc]
        rfl
    · rw [if_neg (fun h => hcontroller h.2), ih, List.filter_cons_of_neg hcontroller]

/-- Where no place comes twice, none is passed over. -/
theorem eraseDupsBy_sharesPlace {classes : List ClassDecl}
    (h : (classes.map ClassDecl.place).Nodup) :
    classes.eraseDupsBy ClassDecl.sharesPlace = classes := by
  induction classes with
  | nil => rfl
  | cons c rest ih =>
    rw [List.map_cons, List.nodup_cons] at h
    have hall : rest.filter (fun other => decide (other.sharesPlace c = false)) = rest := by
      refine List.filter_eq_self.mpr fun other hother => ?_
      have hne : other.place ≠ c.place := fun heq => h.1 (heq ▸ List.mem_map_of_mem hother)
      simpa [ClassDecl.sharesPlace] using hne
    rw [List.eraseDupsBy_cons, hall, ih h.2]

/-- The classes found are the controllers, in order, of several at one place only the first. -/
theorem findControllers_eq (classes : List ClassDecl) :
    findControllers classes =
      (classes.filter (·.isController classes)).eraseDupsBy ClassDecl.sharesPlace := by
  rw [findControllers, controllersFrom_eq]
  simp

/-- Where no place comes twice, all controllers are found. -/
theorem findControllers_eq_filter (h : (classes.map ClassDecl.place).Nodup) :
    findControllers classes = classes.filter (·.isController classes) := by
  rw [findControllers_eq]
  exact eraseDupsBy_sharesPlace ((List.filter_sublist.map _).nodup h)

/-- **Which classes are found.** The classes found are those that are controllers, in their order,
and of several at one place only the first. A class is a controller if and only if it is marked, or
a chain of base names leads from it to a base of controllers without following its own name. So
nothing is found that has no chain at all; and of the first class of each name, everything with a
chain is found, whichever names the chain follows. -/
theorem findControllers_of_chains (classes : List ClassDecl) :
    findControllers classes =
      (classes.filter (·.isController classes)).eraseDupsBy ClassDecl.sharesPlace ∧
    ((classes.map ClassDecl.place).Nodup →
      findControllers classes = classes.filter (·.isController classes)) ∧
    ∀ c : ClassDecl,
      (c.isController classes = true ↔ c.IsMarked ∨ c.Inherits classes [c.name]) ∧
      (c.isController classes = true → c.IsMarked ∨ c.Inherits classes []) ∧
      (classNamed? classes c.name = some c →
        (c.isController classes = true ↔ c.IsMarked ∨ c.Inherits classes [])) := by
  refine ⟨findControllers_eq classes, findControllers_eq_filter,
    fun c => ⟨isController_iff classes c, fun h => ?_, fun h => ?_⟩⟩
  · rcases (isController_iff classes c).mp h with hmarked | ⟨base, hbase, hleads⟩
    · exact .inl hmarked
    · exact .inr ⟨base, hbase, hleads.mono (List.nil_subset _)⟩
  · rw [isController_iff, ClassDecl.inherits_avoid_self h]

/-- A controller. -/
def usersController : ClassDecl where
  name := "UsersController".toList
  file := .ofText "V1.cs".toList
  line := 1
  bases := ["ControllerBase".toList]

/-- A class of the same name that is derived from it. -/
def derivedUsersController : ClassDecl where
  name := "UsersController".toList
  file := .ofText "V2.cs".toList
  line := 1
  bases := ["UsersController".toList]

/-- A class that is derived from a controller of its own name is not found. -/
theorem findControllers_of_own_name :
    derivedUsersController.Inherits [usersController, derivedUsersController] [] ∧
      findControllers [usersController, derivedUsersController] = [usersController] := by
  have hfirst : classNamed? [usersController, derivedUsersController] "UsersController".toList =
      some usersController := by decide
  have hbase : LeadsToBase [usersController, derivedUsersController] [] "ControllerBase".toList :=
    .reached (by decide)
  refine ⟨⟨"UsersController".toList, List.mem_singleton_self _, ?_⟩, by decide⟩
  exact .through hfirst List.not_mem_nil (List.mem_singleton_self _) hbase

end RouteAtlas.Controllers
