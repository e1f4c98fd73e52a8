import RouteAtlas.Proofs.Files.Follow

/-!
# Paths in a tree that changes

What a path leads to in one tree says what it leads to in another, as long as the change between
them is known. Once a file was put where a path leads, the path leads there still, unless the way to
its parent runs through the very link that was replaced: then it ends there (`follow_replaced`). A
path that leads to something leads to the same in a tree with more in it (`Extends.follow_eq`), and
it did so before a file was put elsewhere (`follow_of_put_file`). Where a path leads to nothing,
directories can be made; a longer path goes on through them (`follow_grown`) and finds nothing in
them but directories (`follow_below`).

Each of these is an induction along the way in one of the trees, and at each name it is enough that
the other tree looks alike there (`look_congr`). A name is looked up in a directory, and no change
here takes a directory away, so the trees can differ only about the name itself. Where they do, the
name is the last one that matters: what was put there is a file, or a directory with nothing but new
directories in it.
-/

namespace RouteAtlas.FileTree

variable {t u : FileTree} {last : LastLink} {links : Nat} {place next : Place} {name target : Text}
  {names rest : List Text} {spot : Spot} {reason : FileReason}

/-! ## A file in place of something -/

/-- In the tree `u`, a file was put where no directory stands in the tree `t`. What else is
different are files of `t`. -/
structure PutAt (t u : FileTree) (replaced : Place) (contents : Bytes) (mode : Nat) : Prop where
  file : u.get? replaced = some (.file contents mode)
  noDirectory : t.get? replaced ≠ some .directory
  agree : ∀ other, other ≠ replaced → (∀ c m, t.get? other ≠ some (.file c m)) →
    u.get? other = t.get? other

/-- How a path leads in a tree where a file was put where it led before. -/
def LeadsToReplaced (t u : FileTree) (replaced : Place) (file : Entry) (links : Nat)
    (place : Place) (names : List Text) : Prop :=
  u.follow .followed links place names = .ok (.taken replaced file) ∨
    u.follow .followed links place names = .error .notDirectory ∧
      (u.follow .followed links place names.dropLast = .error .notDirectory ∨
        u.follow .followed links place names.dropLast = .ok (.taken replaced file)) ∧
      ∃ target, t.get? replaced = some (.link target)

section PutAt

variable {replaced : Place} {contents : Bytes} {mode : Nat}

theorem PutAt.directory (h : PutAt t u replaced contents mode)
    (hplace : t.get? place = some .directory) : u.get? place = some .directory := by
  rw [h.agree place (fun heq => h.noDirectory (heq ▸ hplace)) (by simp [hplace]), hplace]

/-- Looked up where the file was put, a name leads to the file. -/
theorem PutAt.look_replaced (h : PutAt t u replaced contents mode)
    (hplace : t.get? place = some .directory) (hplain : isPlain name = true)
    (hname : place ++ [name] = replaced) : u.look place name = .ok (.entry replaced) := by
  rw [look_of_isPlain (h.directory hplace) hplain, hname, found_of_file h.file]

/-- Looked up elsewhere, a name leads to what it led to, unless that is a file. -/
theorem PutAt.look_eq (h : PutAt t u replaced contents mode)
    (hplace : t.get? place = some .directory) (hname : place ++ [name] ≠ replaced)
    (hentry : ∀ c m, t.get? (place ++ [name]) ≠ some (.file c m)) :
    u.look place name = t.look place name :=
  look_congr ((h.directory hplace).trans hplace.symm) (h.agree _ hname hentry)

/-- The last name of a path leads to the file that was put there. -/
theorem PutAt.leads_last (h : PutAt t u replaced contents mode)
    (hplace : t.get? place = some .directory) (hplain : isPlain name = true)
    (hname : place ++ [name] = replaced) :
    LeadsToReplaced t u replaced (.file contents mode) links place [name] := by
  refine .inl ?_
  rw [follow_of_entry (h.look_replaced hplace hplain hname)]
  exact follow_nil u _ _ h.file

/-- A path that goes on behind a link ends at the file that took its place. -/
theorem PutAt.leads_through (h : PutAt t u replaced contents mode)
    (hlook : t.look place name = .ok (.link target)) (hname : place ++ [name] = replaced)
    (hrest : rest ≠ []) :
    LeadsToReplaced t u replaced (.file contents mode) links place (name :: rest) := by
  obtain ⟨hplain, hlink⟩ := look_eq_link hlook
  have hlook' := h.look_replaced (get?_of_look hlook) hplain hname
  refine .inr ⟨?_, ?_, target, hname ▸ hlink⟩
  · rw [follow_of_entry hlook', follow_file h.file hrest]
  · rw [List.dropLast_cons_of_ne_nil hrest, follow_of_entry hlook']
    by_cases hnil : rest.dropLast = []
    · exact .inr (by rw [hnil, follow_nil u _ _ h.file])
    · exact .inl (follow_file h.file hnil)

/-- A link that was left alone leads on as before. -/
theorem LeadsToReplaced.of_link {file : Entry} (hlook : u.look place name = .ok (.link target))
    (hrest : rest ≠ [])
    (h : LeadsToReplaced t u replaced file links (startOf target place)
      (target.splitOn '/' ++ rest)) :
    LeadsToReplaced t u replaced file (links + 1) place (name :: rest) := by
  rw [LeadsToReplaced, List.dropLast_append_of_ne_nil hrest] at h
  rw [LeadsToReplaced, List.dropLast_cons_of_ne_nil hrest, follow_of_link hlook (not_kept _),
    follow_of_link hlook (not_kept _)]
  exact h

/-- A name that leads on as before is a step of the way. -/
theorem LeadsToReplaced.of_entry {file : Entry} (hlook : u.look place name = .ok (.entry next))
    (h : LeadsToReplaced t u replaced file links next rest) :
    LeadsToReplaced t u replaced file links place (name :: rest) := by
  unfold LeadsToReplaced at h ⊢
  rw [follow_of_entry hlook]
  cases rest with
  | nil =>
    -- Where no name is left, nothing is read in a file.
    refine .inl (h.resolve_right fun ⟨herror, _⟩ => ?_)
    rw [follow_nil_eq] at herror
    split at herror <;> cases herror
  | cons name' rest => rwa [List.dropLast_cons_cons, follow_of_entry hlook]

/-- A path leads to the file that was put where it led, unless its way was through a link there. -/
theorem follow_replaced (hput : PutAt t u replaced contents mode)
    (h : t.follow .kept links place names = .ok spot) (hspot : spot.place = replaced) :
    LeadsToReplaced t u replaced (.file contents mode) links place names := by
  fun_induction follow t .kept links place names with
  | case1 links place entry hentry =>
    obtain rfl := Except.ok.inj h
    obtain rfl : place = replaced := hspot
    exact .inl (follow_nil u _ _ hput.file)
  | case2 | case3 | case5 | case7 => cases h
  | case4 links place name rest hlook hempty =>
    obtain rfl := Except.ok.inj h
    rw [List.isEmpty_iff.mp hempty]
    exact hput.leads_last (get?_of_look hlook) (look_eq_nothing hlook).1 hspot
  | case6 links place name rest target hlook hkept =>
    obtain rfl := Except.ok.inj h
    rw [Bool.and_eq_true] at hkept
    rw [List.isEmpty_iff.mp hkept.1]
    exact hput.leads_last (get?_of_look hlook) (look_eq_link hlook).1 hspot
  | case8 place name rest target hlook hkept links ih =>
    have hrest : rest ≠ [] := by simpa using hkept
    by_cases hname : place ++ [name] = replaced
    · exact hput.leads_through hlook hname hrest
    · have hlink := (look_eq_link hlook).2
      have hlook' := (hput.look_eq (get?_of_look hlook) hname (by simp [hlink])).trans hlook
      exact .of_link hlook' hrest (ih h)
  | case9 links place name rest next hlook ih =>
    have hplace := get?_of_look hlook
    rcases look_cases hlook with ⟨hplain, hfound⟩ | ⟨hhere, -⟩ | ⟨-, habove, -⟩
    · obtain ⟨rfl, entry, hentry, hlink⟩ := found_eq_entry hfound.symm
      cases entry with
      | file c m =>
        -- The path ends at a file, so this is where the other file was put.
        obtain rfl : rest = [] := by
          by_contra hrest
          rw [follow_file hentry hrest] at h
          cases h
        rw [follow_nil t _ _ hentry] at h
        obtain rfl := Except.ok.inj h
        exact hput.leads_last hplace hplain hspot
      | directory =>
        have hname : place ++ [name] ≠ replaced := fun heq => hput.noDirectory (heq ▸ hentry)
        have hlook' := (hput.look_eq hplace hname (by simp [hentry])).trans hlook
        exact .of_entry hlook' (ih h)
      | link target => exact absurd rfl (hlink target)
    · have hlook' := (look_of_dots hplace (hput.directory hplace) (.inl hhere)).trans hlook
      exact .of_entry hlook' (ih h)
    · have hlook' := (look_of_dots hplace (hput.directory hplace) (.inr habove)).trans hlook
      exact .of_entry hlook' (ih h)

end PutAt

/-! ## Trees with more in them -/

/-- What stands in the tree `t` stands in the tree `u` as well. -/
def Extends (t u : FileTree) : Prop :=
  ∀ place entry, t.get? place = some entry → u.get? place = some entry

/-- An entry that is put where nothing stood leaves everything else there. -/
theorem extends_put {place : Place} (hplace : place ≠ []) (hnone : t.get? place = none)
    (entry : Entry) : Extends t (t.put place entry) := by
  intro other found hfound
  rw [get?_put_of_ne_nil t hplace, if_neg, hfound]
  intro heq
  rw [heq, hnone] at hfound
  cases hfound

/-- Where a name leads to something, it leads to the same in a tree with more in it. -/
theorem Extends.look_eq (hmore : Extends t u) {found : Found}
    (h : t.look place name = .ok found) (hfound : found ≠ .nothing) :
    u.look place name = .ok found := by
  have hplace := get?_of_look h
  have hplace' := hmore place _ hplace
  rcases look_cases h with ⟨-, heq⟩ | ⟨hhere, -⟩ | ⟨-, habove, -⟩
  · rw [look_congr (hplace'.trans hplace.symm) ?_, h]
    cases hname : t.get? (place ++ [name]) with
    | none => exact absurd (heq.trans (by rw [FileTree.found, hname])) hfound
    | some entry => exact hmore _ _ hname
  · exact (look_of_dots hplace hplace' (.inl hhere)).trans h
  · exact (look_of_dots hplace hplace' (.inr habove)).trans h

/-- A path that leads to something leads to the same in a tree with more in it. -/
theorem Extends.follow_eq (hmore : Extends t u) {entry : Entry}
    (h : t.follow last links place names = .ok (.taken next entry)) :
    u.follow last links place names = .ok (.taken next entry) := by
  fun_induction follow t last links place names with
  | case1 links place entry' hentry =>
    cases h
    exact follow_nil u _ _ (hmore _ _ hentry)
  | case2 | case3 | case4 | case5 | case7 => cases h
  | case6 links place name rest target hlook hkept =>
    cases h
    exact follow_of_link_kept (hmore.look_eq hlook (by simp)) hkept
  | case8 place name rest target hlook hkept links ih =>
    rw [follow_of_link (hmore.look_eq hlook (by simp)) hkept]
    exact ih h
  | case9 links place name rest next' hlook ih =>
    rw [follow_of_entry (hmore.look_eq hlook (by simp))]
    exact ih h

/-- A path that does not end at a new file leads to the same without it. -/
theorem follow_of_put_file {new : Place} {contents : Bytes} {mode : Nat} (hnew : new ≠ [])
    (h : (t.put new (.file contents mode)).follow last links place names = .ok spot)
    (hspot : spot.place ≠ new) : t.follow last links place names = .ok spot := by
  have hfile : (t.put new (.file contents mode)).get? new = some (.file contents mode) := by
    rw [get?_put_of_ne_nil t hnew, if_pos rfl]
  have hsame (other : Place) (hother : other ≠ new) :
      (t.put new (.file contents mode)).get? other = t.get? other := by
    rw [get?_put_of_ne_nil t hnew, if_neg hother]
  generalize t.put new (.file contents mode) = u at h hfile hsame
  -- No directory is new, and neither is a link or nothing.
  have hplain {place : Place} (hfound : u.get? place ≠ some (.file contents mode)) :
      t.get? place = u.get? place :=
    (hsame place fun heq => hfound (heq ▸ hfile)).symm
  have hdirectory {place : Place} (hplace : u.get? place = some .directory) :
      t.get? place = u.get? place := hplain (by simp [hplace])
  have hlooks {place : Place} {name : Text} {found : Found} (hlook : u.look place name = .ok found)
      (hfound : u.get? (place ++ [name]) ≠ some (.file contents mode)) :
      t.look place name = .ok found :=
    (look_congr (hdirectory (get?_of_look hlook)) (hplain hfound)).trans hlook
  fun_induction follow u last links place names with
  | case1 links place entry hentry =>
    cases h
    exact follow_nil t _ _ ((hsame place hspot).symm.trans hentry)
  | case2 | case3 | case5 | case7 => cases h
  | case4 links place name rest hlook hempty =>
    rw [follow_of_nothing (hlooks hlook (by simp [(look_eq_nothing hlook).2])), if_pos hempty]
    exact h
  | case6 links place name rest target hlook hkept =>
    rw [follow_of_link_kept (hlooks hlook (by simp [(look_eq_link hlook).2])) hkept]
    exact h
  | case8 place name rest target hlook hkept links ih =>
    rw [follow_of_link (hlooks hlook (by simp [(look_eq_link hlook).2])) hkept]
    exact ih h
  | case9 links place name rest next hlook ih =>
    have hplace := get?_of_look hlook
    have hlook' : t.look place name = .ok (.entry next) := by
      rcases look_cases hlook with ⟨-, hfound⟩ | ⟨hhere, -⟩ | ⟨-, habove, -⟩
      · obtain ⟨rfl, entry, hentry, -⟩ := found_eq_entry hfound.symm
        by_cases hname : place ++ [name] = new
        · -- The path would end at the new file, or lead nowhere.
          rw [hname] at h
          by_cases hrest : rest = []
          · rw [hrest, follow_nil u _ _ hfile] at h
            cases h
            exact absurd rfl hspot
          · rw [follow_file hfile hrest] at h
            cases h
        · exact (look_congr (hdirectory hplace) (hsame _ hname).symm).trans hlook
      · have htold := (hdirectory hplace).trans hplace
        exact (look_of_dots hplace htold (.inl hhere)).trans hlook
      · have htold := (hdirectory hplace).trans hplace
        exact (look_of_dots hplace htold (.inr habove)).trans hlook
    rw [follow_of_entry hlook']
    exact ih h

/-! ## New directories -/

/-- The tree `u` is the tree `t` with directories at and below a place where `t` has nothing. -/
structure GrownAt (t u : FileTree) (base : Place) : Prop where
  agree : ∀ place, ¬base <+: place → u.get? place = t.get? place
  nothing : ∀ place, base <+: place → t.get? place = none
  directories : ∀ place, base <+: place → u.get? place = none ∨ u.get? place = some .directory
  base : u.get? base = some .directory

/-- A new directory where a rooted tree has nothing. -/
theorem grownAt_put (hplace : place ≠ []) (hrooted : t.IsRooted) (hnone : t.get? place = none) :
    GrownAt t (t.put place .directory) place where
  agree other hbelow := by
    rw [get?_put_of_ne_nil t hplace]
    exact if_neg fun h : other = place => hbelow (h ▸ List.prefix_rfl)
  nothing other hbelow := hrooted.eq_none_below hnone hbelow
  directories other hbelow := by
    rw [get?_put_of_ne_nil t hplace, hrooted.eq_none_below hnone hbelow]
    split
    · exact .inr rfl
    · exact .inl rfl
  base := by
    rw [get?_put_of_ne_nil t hplace]
    exact if_pos rfl

/-- One more directory below the new ones. -/
theorem GrownAt.put {base : Place} (h : GrownAt t u base) (hplace : place ≠ [])
    (hbelow : base <+: place) : GrownAt t (u.put place .directory) base where
  agree other hother := by
    rw [get?_put_of_ne_nil u hplace, if_neg fun heq : other = place => hother (heq ▸ hbelow)]
    exact h.agree other hother
  nothing := h.nothing
  directories other hother := by
    rw [get?_put_of_ne_nil u hplace]
    split
    · exact .inr rfl
    · exact h.directories other hother
  base := by
    rw [get?_put_of_ne_nil u hplace]
    split
    · rfl
    · exact h.base

/-- What stood in the tree stands there still. -/
theorem GrownAt.extends {base : Place} (hgrown : GrownAt t u base) : Extends t u := by
  intro place entry h
  have hbelow : ¬base <+: place := fun hbelow => by
    rw [hgrown.nothing place hbelow] at h
    cases h
  rw [hgrown.agree place hbelow, h]

/-- A path that led to nothing leads on through the directory that was made there; before, it led
nowhere at all. -/
theorem follow_grown {directory : Place} (hgrown : GrownAt t u (directory ++ [name]))
    (h : t.follow .kept links place names = .ok (.vacant directory name)) :
    ∃ links', ∀ last rest,
      u.follow last links place (names ++ rest) =
        u.follow last links' (directory ++ [name]) rest ∧
      (rest ≠ [] → t.follow last links place (names ++ rest) = .error .missing) := by
  fun_induction follow t .kept links place names with
  | case1 | case2 | case3 | case5 | case6 | case7 => cases h
  | case4 links place name' rest hlook hempty =>
    cases h
    rw [List.isEmpty_iff.mp hempty]
    have hlook' : u.look directory name = .ok (.entry (directory ++ [name])) := by
      have hplain := (look_eq_nothing hlook).1
      rw [look_of_isPlain (hgrown.extends _ _ (get?_of_look hlook)) hplain, found, hgrown.base]
    refine ⟨links, fun last rest => ⟨follow_of_entry hlook', fun hrest => ?_⟩⟩
    exact (follow_of_nothing hlook).trans (if_neg (by simpa using hrest))
  | case8 place name' rest target hlook hkept links ih =>
    obtain ⟨links', hfollow⟩ := ih h
    have hrest : rest ≠ [] := by simpa using hkept
    refine ⟨links', fun last tail => ?_⟩
    have hlast : ¬((rest ++ tail).isEmpty && last == .kept) = true := by simp [hrest]
    rw [List.cons_append, follow_of_link (hgrown.extends.look_eq hlook (by simp)) hlast,
      follow_of_link hlook hlast, ← List.append_assoc]
    exact hfollow last tail
  | case9 links place name' rest next hlook ih =>
    obtain ⟨links', hfollow⟩ := ih h
    refine ⟨links', fun last tail => ?_⟩
    rw [List.cons_append, follow_of_entry (hgrown.extends.look_eq hlook (by simp)),
      follow_of_entry hlook]
    exact hfollow last tail

/-- The name stays in the directory it is read in, and it is not too long. -/
def IsTame (name : Text) : Prop :=
  isAbove name = false ∧ (Utf8.encode name).length ≤ nameLimit

/-- Where a way ends that leads to nothing but directories below a place. -/
def EndsBelow (base : Place) : Except FileReason Spot → Prop
  | .ok (.taken place entry) => base <+: place ∧ entry = .directory
  | .ok (.vacant directory _) => base <+: directory
  | .error reason => reason = .missing ∨ reason = .notDirectory

/-- Below the new directories names lead to nothing but directories. -/
theorem follow_below {base : Place} (hgrown : GrownAt t u base) (hplace : base <+: place)
    (hnames : ∀ name ∈ names, IsTame name) :
    EndsBelow base (u.follow last links place names) := by
  have hbelow {place : Place} (hplace : base <+: place) (name : Text) :
      base <+: place ++ [name] := hplace.trans (List.prefix_append place [name])
  have hlink {place : Place} {name target : Text} (hplace : base <+: place)
      (hlook : u.look place name = .ok (.link target)) : False := by
    have hget := (look_eq_link hlook).2
    rcases hgrown.directories _ (hbelow hplace name) with h | h <;> rw [h] at hget <;> cases hget
  fun_induction follow u last links place names with
  | case1 links place entry hentry =>
    refine ⟨hplace, ?_⟩
    rcases hgrown.directories place hplace with h | h <;> rw [h] at hentry <;> cases hentry
    rfl
  | case2 => exact .inl rfl
  | case3 links place name rest reason hlook =>
    rcases look_eq_error hlook with rfl | ⟨-, hlong⟩
    · exact .inr rfl
    · exact absurd hlong (Nat.not_lt.mpr (hnames name List.mem_cons_self).2)
  | case4 links place name rest hlook hempty => exact hplace
  | case5 links place name rest hlook hempty => exact .inl rfl
  | case6 links place name rest target hlook => exact (hlink hplace hlook).elim
  | case7 place name rest target hlook => exact (hlink hplace hlook).elim
  | case8 place name rest target hlook => exact (hlink hplace hlook).elim
  | case9 links place name rest next hlook ih =>
    refine ih ?_ fun name' hname' => hnames name' (List.mem_cons_of_mem _ hname')
    rcases look_cases hlook with ⟨-, hfound⟩ | ⟨-, hfound⟩ | ⟨-, habove, -⟩
    · rw [(found_eq_entry hfound.symm).1]
      exact hbelow hplace name
    · cases hfound
      exact hplace
    · rw [(hnames name List.mem_cons_self).1] at habove
      cases habove

end RouteAtlas.FileTree
