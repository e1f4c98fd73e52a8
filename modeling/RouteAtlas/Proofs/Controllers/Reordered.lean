import Mathlib.Data.List.Nodup
import Mathlib.Data.List.Perm.Basic
import RouteAtlas.Proofs.Controllers.Inheritance

/-!
# Controllers of reordered classes

In which order classes are declared does not matter for which of them are controllers, as long as
their names and their places are their own. Which chains of base names there are depends on the
class of each name alone (`LeadsToBase.of_named`), and a search finds whatever chain there is.

The search itself is said here as it goes from class to class, without any bound on how far it may
go (`Searches`). What it has seen under one base it does not look at again under the next one. Each
name that it follows takes the bases of its class away from those that are still to be seen
(`unseenBases`), so it ends, also where inheritance runs in circles (`exists_searches`), and the
bounded search has its answer (`isController_of_searches`).
-/

namespace RouteAtlas.Controllers

variable {classes : List ClassDecl} {seen names rest after : List Text} {name : Text} {found : Bool}

/-! ## The search from class to class -/

/-- A search through base names, one after the other: whether a base of controllers is found, and
which names have been seen when it is over. A name of a class that has not been seen is followed
through the bases of its class first. The search is over as soon as something is found. -/
inductive Searches (classes : List ClassDecl) :
    (seen names : List Text) → (found : Bool) → (after : List Text) → Prop
  | nothing {seen : List Text} : Searches classes seen [] false seen
  | here {seen rest : List Text} {name : Text} (hbase : name ∈ controllerBases) :
      Searches classes seen (name :: rest) true seen
  | stuck {seen rest after : List Text} {name : Text} {found : Bool}
      (hbase : name ∉ controllerBases)
      (hstuck : ∀ parent, classNamed? classes name = some parent → name ∈ seen)
      (hrest : Searches classes seen rest found after) :
      Searches classes seen (name :: rest) found after
  | above {seen rest after : List Text} {name : Text} {parent : ClassDecl}
      (hbase : name ∉ controllerBases) (hparent : classNamed? classes name = some parent)
      (hnew : name ∉ seen) (habove : Searches classes (name :: seen) parent.bases true after) :
      Searches classes seen (name :: rest) true after
  | past {seen rest between after : List Text} {name : Text} {parent : ClassDecl} {found : Bool}
      (hbase : name ∉ controllerBases) (hparent : classNamed? classes name = some parent)
      (hnew : name ∉ seen) (habove : Searches classes (name :: seen) parent.bases false between)
      (hrest : Searches classes between rest found after) :
      Searches classes seen (name :: rest) found after

/-- What has been seen stays seen. -/
theorem Searches.subset (h : Searches classes seen names found after) : seen ⊆ after := by
  induction h with
  | nothing => exact List.Subset.refl _
  | here => exact List.Subset.refl _
  | stuck _ _ _ ih => exact ih
  | above _ _ _ _ ih => exact List.Subset.trans (List.subset_cons_self _ _) ih
  | past _ _ _ _ _ ihabove ihrest =>
    exact List.Subset.trans (List.subset_cons_self _ _) (List.Subset.trans ihabove ihrest)

/-- **The search ends**, whatever the classes are and wherever it starts. -/
theorem exists_searches (classes : List ClassDecl) (seen names : List Text) :
    ∃ found after, Searches classes seen names found after := by
  -- a name that is followed makes way for the bases of its class, any other one for nothing
  induction hsize : names.length + unseenBases classes seen using Nat.strongRecOn
    generalizing seen names with
  | _ size ih =>
    cases names with
    | nil => exact ⟨false, seen, .nothing⟩
    | cons name rest =>
      rw [List.length_cons] at hsize
      by_cases hbase : name ∈ controllerBases
      · exact ⟨true, seen, .here hbase⟩
      by_cases hstuck : ∀ parent, classNamed? classes name = some parent → name ∈ seen
      · obtain ⟨found, after, hrest⟩ := ih _ (by omega) seen rest rfl
        exact ⟨found, after, .stuck hbase hstuck hrest⟩
      push Not at hstuck
      obtain ⟨parent, hparent, hnew⟩ := hstuck
      obtain rfl := name_of_classNamed? hparent
      have hless := unseenBases_cons_le (List.mem_of_find?_eq_some hparent) hnew
      obtain ⟨foundAbove, between, habove⟩ :=
        ih _ (by omega) (parent.name :: seen) parent.bases rfl
      cases foundAbove with
      | true => exact ⟨true, between, .above hbase hparent hnew habove⟩
      | false =>
        have hfewer : unseenBases classes between ≤ unseenBases classes (parent.name :: seen) :=
          unseenBases_le habove.subset
        obtain ⟨found, after, hrest⟩ := ih _ (by omega) between rest rfl
        exact ⟨found, after, .past hbase hparent hnew habove hrest⟩

/-- The bounded search comes to the same with any bounds that are high enough. -/
theorem leadsToController_congr {fuel more : Nat}
    (hfuel : names.length + unseenBases classes seen < fuel)
    (hmore : names.length + unseenBases classes seen < more) :
    leadsToController classes fuel seen names = leadsToController classes more seen names := by
  rw [Bool.eq_iff_iff, leadsToController_iff classes hfuel, leadsToController_iff classes hmore]

/-- The bounded search goes on to the bases of a class that has not been seen, with a bound that is
still high enough. -/
theorem leadsToController_follow {parent : ClassDecl} {fuel : Nat} (hbase : name ∉ controllerBases)
    (hparent : classNamed? classes name = some parent) (hnew : name ∉ seen)
    (hfuel : (name :: names).length + unseenBases classes seen < fuel) :
    ∃ fewer, (parent.bases ++ names).length + unseenBases classes (name :: seen) < fewer ∧
      leadsToController classes fuel seen (name :: names) =
        leadsToController classes fewer (name :: seen) (parent.bases ++ names) := by
  obtain rfl := name_of_classNamed? hparent
  have hless := unseenBases_cons_le (List.mem_of_find?_eq_some hparent) hnew
  rw [List.length_cons] at hfuel
  cases fuel with
  | zero => omega
  | succ fuel =>
    refine ⟨fuel, by rw [List.length_append]; omega, ?_⟩
    rw [leadsToController_cons, if_neg hbase, hparent]
    exact if_neg hnew

/-- The bounded search goes through names as the search does, and on to others behind them with what
has been seen by then. -/
theorem Searches.leadsToController_append (h : Searches classes seen names found after)
    {todo : List Text} {fuel fuelAfter : Nat}
    (hfuel : (names ++ todo).length + unseenBases classes seen < fuel)
    (hafter : todo.length + unseenBases classes after < fuelAfter) :
    leadsToController classes fuel seen (names ++ todo) =
      (found || leadsToController classes fuelAfter after todo) := by
  induction h generalizing todo fuel fuelAfter with
  | nothing => exact leadsToController_congr hfuel hafter
  | here hbase =>
    cases fuel with
    | zero => omega
    | succ fuel => rw [List.cons_append, leadsToController_cons, if_pos hbase, Bool.true_or]
  | @stuck seen rest after name found hbase hstuck _ ih =>
    cases fuel with
    | zero => omega
    | succ fuel =>
      have hsteps : (rest ++ todo).length + unseenBases classes seen < fuel := by
        rw [List.cons_append, List.length_cons] at hfuel
        omega
      rw [List.cons_append, leadsToController_cons, if_neg hbase, ← ih hsteps hafter]
      split
      next => rfl
      next parent hparent => rw [if_pos (hstuck parent hparent)]
  | @above seen rest after name parent hbase hparent hnew _ ih =>
    rw [List.cons_append] at hfuel ⊢
    obtain ⟨fuel, hsteps, hfollowed⟩ := leadsToController_follow hbase hparent hnew hfuel
    rw [hfollowed, ih hsteps (Nat.lt_succ_self _), Bool.true_or, Bool.true_or]
  | @past seen rest between after name parent found hbase hparent hnew habove _ ihabove ihrest =>
    rw [List.cons_append] at hfuel ⊢
    obtain ⟨fuel, hsteps, hfollowed⟩ := leadsToController_follow hbase hparent hnew hfuel
    rw [hfollowed, ihabove hsteps (Nat.lt_succ_self _), Bool.false_or,
      ihrest (Nat.lt_succ_self _) hafter]

/-- **The bounded search has the answer of the search.** -/
theorem isController_of_searches {c : ClassDecl}
    (h : Searches classes [c.name] c.bases found after) :
    c.isController classes = (c.attributes.any (·.name == controllerAttribute) || found) := by
  have hfuel : (c.bases ++ []).length + unseenBases classes [c.name] <
      c.bases.length + baseCount classes + 1 := by
    have hle := unseenBases_le_baseCount classes [c.name]
    rw [List.append_nil]
    omega
  have hsearch := h.leadsToController_append hfuel (Nat.lt_succ_self _)
  rw [List.append_nil, leadsToController_nil, Bool.or_false] at hsearch
  rw [ClassDecl.isController, hsearch]

/-! ## Another order -/

/-- Which class has a name, if no two have one. -/
theorem classNamed?_eq_some_iff (hnames : (classes.map ClassDecl.name).Nodup) {c : ClassDecl} :
    classNamed? classes name = some c ↔ c ∈ classes ∧ c.name = name := by
  constructor
  · intro h
    exact ⟨List.mem_of_find?_eq_some h, name_of_classNamed? h⟩
  · rintro ⟨hmem, rfl⟩
    obtain ⟨first, hfirst⟩ : ∃ first, classNamed? classes c.name = some first := by
      rw [← Option.isSome_iff_exists, classNamed?, List.find?_isSome]
      exact ⟨c, hmem, beq_self_eq_true _⟩
    rw [hfirst, List.inj_on_of_nodup_map hnames (List.mem_of_find?_eq_some hfirst) hmem
      (name_of_classNamed? hfirst)]

theorem classNamed?_of_perm {other : List ClassDecl} (hperm : classes.Perm other)
    (hnames : (classes.map ClassDecl.name).Nodup) (name : Text) :
    classNamed? other name = classNamed? classes name := by
  have hothers : (other.map ClassDecl.name).Nodup := (hperm.map _).nodup_iff.mp hnames
  refine Option.ext fun c => ?_
  rw [classNamed?_eq_some_iff hothers, classNamed?_eq_some_iff hnames, hperm.mem_iff]

/-- Chains go by the class of each name. -/
theorem LeadsToBase.of_named {other : List ClassDecl} {avoided : List Text}
    (hnamed : ∀ name, classNamed? other name = classNamed? classes name)
    (h : LeadsToBase classes avoided name) : LeadsToBase other avoided name := by
  induction h with
  | reached hbase => exact .reached hbase
  | through hparent hfree hnext _ ih => exact .through ((hnamed _).trans hparent) hfree hnext ih

/-- Whether a class is a controller goes by the class of each name. -/
theorem isController_of_named {other : List ClassDecl}
    (hnamed : ∀ name, classNamed? other name = classNamed? classes name) (c : ClassDecl) :
    c.isController other = c.isController classes := by
  have hleads (name : Text) : LeadsToBase other [c.name] name ↔ LeadsToBase classes [c.name] name :=
    ⟨LeadsToBase.of_named fun name => (hnamed name).symm, LeadsToBase.of_named hnamed⟩
  rw [Bool.eq_iff_iff, isController_iff, isController_iff, ClassDecl.Inherits, ClassDecl.Inherits]
  simp only [hleads]

/-- **The order of classes does not matter.** Every search among the bases of classes ends, however
they are derived from each other, and a class is a controller if it is marked or the search from it
finds something. Classes with names and places of their own, in any other order, have the same
controllers, in that order. -/
theorem findControllers_of_perm (classes : List ClassDecl) :
    (∀ c : ClassDecl,
      (∃ found after, Searches classes [c.name] c.bases found after) ∧
      ∀ found after, Searches classes [c.name] c.bases found after →
        c.isController classes = (c.attributes.any (·.name == controllerAttribute) || found)) ∧
    ∀ other, classes.Perm other →
      (classes.map ClassDecl.name).Nodup → (classes.map ClassDecl.place).Nodup →
      findControllers other = other.filter (· ∈ findControllers classes) := by
  refine ⟨fun c => ⟨exists_searches classes _ _, fun found after => isController_of_searches⟩, ?_⟩
  intro other hperm hnames hplaces
  have hothers : (other.map ClassDecl.place).Nodup := (hperm.map _).nodup_iff.mp hplaces
  rw [findControllers_eq_filter hplaces, findControllers_eq_filter hothers]
  refine List.filter_congr fun c hc => ?_
  have hmem : c ∈ classes := hperm.mem_iff.mpr hc
  rw [isController_of_named (classNamed?_of_perm hperm hnames), Bool.eq_iff_iff,
    decide_eq_true_eq, List.mem_filter]
  exact ⟨fun h => ⟨hmem, h⟩, fun h => h.2⟩

/-- A class with a line and bases in one file. -/
def classWith (name : String) (line : Nat) (bases : List String) : ClassDecl where
  name := name.toList
  file := .ofText "Pets.cs".toList
  line := line
  bases := bases.map String.toList

/-- Two classes are derived from each other, one of them from a base of controllers as well; the
third one is derived from itself. -/
def circularClasses : List ClassDecl :=
  [classWith "Cats" 1 ["Dogs"], classWith "Dogs" 5 ["Cats", "ControllerBase"],
    classWith "Birds" 9 ["Birds"]]

theorem findControllers_of_perm_circular :
    Searches circularClasses ["Birds".toList] ["Birds".toList] false ["Birds".toList] ∧
      (classWith "Birds" 9 ["Birds"]).isController circularClasses = false ∧
      (circularClasses.map ClassDecl.name).Nodup ∧ (circularClasses.map ClassDecl.place).Nodup ∧
      findControllers circularClasses.reverse =
        circularClasses.reverse.filter (· ∈ findControllers circularClasses) ∧
      findControllers circularClasses = circularClasses.take 2 := by
  have hsearch : Searches circularClasses ["Birds".toList] ["Birds".toList] false
      ["Birds".toList] :=
    .stuck (by decide) (fun _ _ => List.mem_singleton_self _) .nothing
  have hnames : (circularClasses.map ClassDecl.name).Nodup := by decide
  have hplaces : (circularClasses.map ClassDecl.place).Nodup := by decide
  obtain ⟨hsearches, horder⟩ := findControllers_of_perm circularClasses
  refine ⟨hsearch, ?_, hnames, hplaces, ?_, by decide⟩
  · exact (hsearches (classWith "Birds" 9 ["Birds"])).2 false _ hsearch
  · exact horder _ (List.reverse_perm circularClasses).symm hnames hplaces

end RouteAtlas.Controllers
