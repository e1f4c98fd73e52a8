import Mathlib.Algebra.GroupWithZero.Nat
import RouteAtlas.Files.Follow
import RouteAtlas.Proofs.Except
import RouteAtlas.Proofs.Files.Tree
import RouteAtlas.Proofs.Text.Utf8

/-!
# The way of a path

A path is followed name by name, and `look` says what one name leads to. The facts below are about
one tree, each by induction along the way.

A path that leads somewhere leads to its parent first (`follow_parent`) and goes on from there
(`follow_append`). So what is no directory stands under the last name of its path, in the directory
of the path (`follow_last`), and where a path leads to nothing, the directory for it is there
(`follow_vacant`).

A name leads to an entry, to a link or to nothing; a dot leads to the directory itself, and two dots
to the one above. None of these is decided by the rest of the path. A link, however, puts names of
its own in front of the rest, one link less may be followed then, and a link that comes last may be
kept. That is why the facts speak of any number of links left, and why those about the last name ask
whether links are kept.

Whether a path can be looked up at all is a question of its own, about lengths (`IsLookable`). It is
asked first, and what is looked up afterwards is what is followed.
-/

namespace RouteAtlas

/-- Without its last part a joined text ends earlier. -/
theorem Text.joinWith_dropLast_prefix (glue : Text) :
    ∀ parts, joinWith glue parts.dropLast <+: joinWith glue parts
  | [] => List.prefix_rfl
  | [_] => List.nil_prefix
  | [first, last] => by
    show joinWith glue [first] <+: joinWith glue [first, last]
    rw [joinWith, joinWith, List.intercalate_cons_cons, List.append_assoc,
      List.intercalate_singleton]
    exact List.prefix_append _ _
  | first :: second :: third :: parts => by
    have ih := joinWith_dropLast_prefix glue (second :: third :: parts)
    rw [joinWith, joinWith, List.dropLast_cons_cons] at ih
    rw [joinWith, joinWith, List.dropLast_cons_cons, List.dropLast_cons_cons,
      List.intercalate_cons_cons, List.intercalate_cons_cons]
    exact (List.prefix_append_right_inj _).mpr ih

/-- Each part of a text that is joined with slashes takes one more byte than its own, but the last
one. -/
theorem Text.length_encode_joinWith :
    ∀ parts, parts ≠ [] → (Utf8.encode (joinWith ['/'] parts)).length + 1 =
      (parts.map fun part => (Utf8.encode part).length + 1).sum
  | [], hparts => absurd rfl hparts
  | [part], _ => by simp [joinWith]
  | first :: second :: parts, _ => by
    have ih := length_encode_joinWith (second :: parts) (List.cons_ne_nil _ _)
    have hslash : (Utf8.encode ['/']).length = 1 := rfl
    rw [joinWith] at ih ⊢
    rw [List.intercalate_cons_cons, Utf8.encode_append, Utf8.encode_append, List.length_append,
      List.length_append, hslash, List.map_cons, List.sum_cons, ← ih]
    omega

/-- The place where something stands or can be put. -/
def Spot.place : Spot → Place
  | .taken place _ => place
  | .vacant directory name => directory ++ [name]

/-- The tree has at a place what a path was found to lead to. -/
def Spot.Agrees (t : FileTree) : Spot → Prop
  | .taken place entry => t.get? place = some entry
  | .vacant directory name =>
    t.get? directory = some .directory ∧ t.get? (directory ++ [name]) = none

namespace FileTree

variable {t u : FileTree} {last : LastLink} {links : Nat} {place next : Place} {name target : Text}
  {names rest : List Text} {spot : Spot} {reason : FileReason}

/-! ## One name -/

/-- A name that is looked up: neither empty nor dots, and not too long. -/
def isPlain (name : Text) : Bool :=
  !isHere name && !isAbove name && decide ((Utf8.encode name).length ≤ nameLimit)

/-- Every entry has a name that is looked up, and stands in directories with such names. -/
def HasPlainNames (t : FileTree) : Prop :=
  ∀ place entry, t.get? place = some entry → ∀ name ∈ place, isPlain name = true

theorem hasPlainNames_of_entries (h : ∀ row ∈ t.entries, ∀ name ∈ row.1, isPlain name = true) :
    t.HasPlainNames := by
  intro place entry hget name hname
  have hplace : place ≠ [] := List.ne_nil_of_mem hname
  exact h _ ((mem_entries_iff hplace).mpr hget) name hname

/-- A name is looked up in a directory only. -/
theorem get?_of_look {found : Found} (h : t.look place name = .ok found) :
    t.get? place = some .directory := by
  unfold look at h
  split_ifs at h <;> simp_all

/-- A name that is no dots leads to what stands under it. -/
theorem look_of_isPlain (hplace : t.get? place = some .directory) (hplain : isPlain name = true) :
    t.look place name = .ok (t.found (place ++ [name])) := by
  simp only [isPlain, Bool.and_eq_true, Bool.not_eq_true', decide_eq_true_eq] at hplain
  rw [look, if_neg (by simp [hplace]), if_neg (by simp [hplain]), if_neg (by simp [hplain]),
    if_neg (by omega)]

/-- A name that is not looked up is a dot or two dots. -/
theorem look_cases {found : Found} (h : t.look place name = .ok found) :
    isPlain name = true ∧ found = t.found (place ++ [name]) ∨
      isHere name = true ∧ found = .entry place ∨
      isHere name = false ∧ isAbove name = true ∧ found = .entry place.dropLast := by
  unfold look at h
  split_ifs at h with hdirectory hhere habove hlong
  · exact .inr (.inl ⟨hhere, (Except.ok.inj h).symm⟩)
  · exact .inr (.inr ⟨by simpa using hhere, habove, (Except.ok.inj h).symm⟩)
  · refine .inl ⟨?_, (Except.ok.inj h).symm⟩
    simp only [isPlain, hhere, habove, Bool.not_false, Bool.and_true, Bool.true_and,
      decide_eq_true_eq]
    omega

/-- Trees that agree on a directory and on what a name in it leads to look alike. -/
theorem look_congr (hplace : u.get? place = t.get? place)
    (hname : u.get? (place ++ [name]) = t.get? (place ++ [name])) :
    u.look place name = t.look place name := by
  unfold look found
  rw [hplace, hname]

/-- A name leads nowhere if it is read outside a directory or too long. -/
theorem look_eq_error (h : t.look place name = .error reason) :
    reason = .notDirectory ∨ reason = .nameTooLong ∧ nameLimit < (Utf8.encode name).length := by
  unfold look at h
  split_ifs at h with hdirectory hhere habove hlong
  · exact .inl (Except.error.inj h).symm
  · exact .inr ⟨(Except.error.inj h).symm, hlong⟩

/-- What dots lead to depends on nothing but the directory they are read in. -/
theorem look_of_dots (ht : t.get? place = some .directory) (hu : u.get? place = some .directory)
    (hdots : isHere name = true ∨ isAbove name = true) : u.look place name = t.look place name := by
  unfold look
  rw [ht, hu]
  rcases hdots with h | h <;> simp [h]

theorem found_of_file {contents : Bytes} {mode : Nat}
    (h : t.get? place = some (.file contents mode)) : t.found place = .entry place := by
  rw [found, h]

theorem found_eq_nothing (h : t.found place = .nothing) : t.get? place = none := by
  unfold found at h
  split at h <;> first | assumption | cases h

theorem found_eq_link (h : t.found place = .link target) :
    t.get? place = some (.link target) := by
  unfold found at h
  split at h <;> cases h
  assumption

theorem found_eq_entry (h : t.found place = .entry next) :
    next = place ∧ ∃ entry, t.get? place = some entry ∧ ∀ target, entry ≠ .link target := by
  unfold found at h
  split at h <;> cases h
  next entry hlink hget => exact ⟨rfl, entry, hget, fun target heq => hlink target heq⟩

/-- Where a name leads to nothing, it can be given to an entry of the directory. -/
theorem look_eq_nothing (h : t.look place name = .ok .nothing) :
    isPlain name = true ∧ t.get? (place ++ [name]) = none := by
  rcases look_cases h with ⟨hplain, hfound⟩ | ⟨-, hfound⟩ | ⟨-, -, hfound⟩
  · exact ⟨hplain, found_eq_nothing hfound.symm⟩
  · cases hfound
  · cases hfound

/-- A link is found under a name that is no dots. -/
theorem look_eq_link (h : t.look place name = .ok (.link target)) :
    isPlain name = true ∧ t.get? (place ++ [name]) = some (.link target) := by
  rcases look_cases h with ⟨hplain, hfound⟩ | ⟨-, hfound⟩ | ⟨-, -, hfound⟩
  · exact ⟨hplain, found_eq_link hfound.symm⟩
  · cases hfound
  · cases hfound

/-! ## One step of the way -/

/-- Without names a path has come to its end. -/
theorem follow_nil (t : FileTree) (last : LastLink) (links : Nat) {entry : Entry}
    (h : t.get? place = some entry) : t.follow last links place [] = .ok (.taken place entry) := by
  rw [follow_nil_eq, h]

theorem follow_of_error (h : t.look place name = .error reason) :
    t.follow last links place (name :: rest) = .error reason := by
  rw [follow_cons_eq, h]

theorem follow_of_nothing (h : t.look place name = .ok .nothing) :
    t.follow last links place (name :: rest) =
      if rest.isEmpty then .ok (.vacant place name) else .error .missing := by
  rw [follow_cons_eq, h]

theorem follow_of_entry (h : t.look place name = .ok (.entry next)) :
    t.follow last links place (name :: rest) = t.follow last links next rest := by
  rw [follow_cons_eq, h]

/-- A link on the way is followed, and one at the end unless it is kept. -/
theorem follow_of_link (h : t.look place name = .ok (.link target))
    (hlast : ¬(rest.isEmpty && last == .kept) = true) :
    t.follow last (links + 1) place (name :: rest) =
      t.follow last links (startOf target place) (target.splitOn '/' ++ rest) := by
  rw [follow_cons_eq, h]
  exact if_neg hlast

theorem follow_of_link_kept (h : t.look place name = .ok (.link target))
    (hlast : (rest.isEmpty && last == .kept) = true) :
    t.follow last links place (name :: rest) = .ok (.taken (place ++ [name]) (.link target)) := by
  rw [follow_cons_eq, h]
  exact if_pos hlast

theorem follow_of_link_zero (h : t.look place name = .ok (.link target))
    (hlast : ¬(rest.isEmpty && last == .kept) = true) :
    t.follow last 0 place (name :: rest) = .error .tooManyLinks := by
  rw [follow_cons_eq, h]
  exact if_neg hlast

/-- No name of a way starts anywhere but in a directory. -/
theorem follow_of_not_directory (h : t.get? place ≠ some .directory) :
    t.follow last links place (name :: rest) = .error .notDirectory := by
  apply follow_of_error
  rw [look, if_pos h]

/-- A link that is followed is not kept. -/
theorem not_kept (rest : List Text) : ¬(rest.isEmpty && LastLink.followed == .kept) = true := by
  rw [show (LastLink.followed == .kept) = false from rfl, Bool.and_false]
  exact Bool.false_ne_true

/-! ## The way as a whole -/

/-- A path that leads somewhere leads to a directory without its last name. -/
theorem follow_parent (h : t.follow last links place names = .ok spot) (hnames : names ≠ []) :
    ∃ directory, t.follow .followed links place names.dropLast =
      .ok (.taken directory .directory) := by
  fun_induction follow t last links place names with
  | case1 => exact absurd rfl hnames
  | case2 | case3 | case5 | case7 => cases h
  | case4 links place name rest hlook hempty =>
    rw [List.isEmpty_iff.mp hempty]
    exact ⟨place, follow_nil t _ _ (get?_of_look hlook)⟩
  | case6 links place name rest target hlook hkept =>
    rw [Bool.and_eq_true] at hkept
    rw [List.isEmpty_iff.mp hkept.1]
    exact ⟨place, follow_nil t _ _ (get?_of_look hlook)⟩
  | case8 place name rest target hlook hkept links ih =>
    -- A link at the end is not followed for the parent, so the way ends in front of it.
    cases rest with
    | nil => exact ⟨place, follow_nil t _ _ (get?_of_look hlook)⟩
    | cons next rest =>
      obtain ⟨directory, hfollow⟩ := ih h (by simp)
      rw [List.dropLast_append_of_ne_nil (List.cons_ne_nil _ _)] at hfollow
      exact ⟨directory, by rw [List.dropLast_cons_cons, follow_of_link hlook (not_kept _), hfollow]⟩
  | case9 links place name rest next hlook ih =>
    cases rest with
    | nil => exact ⟨place, follow_nil t _ _ (get?_of_look hlook)⟩
    | cons name' rest =>
      obtain ⟨directory, hfollow⟩ := ih h (by simp)
      exact ⟨directory, by rw [List.dropLast_cons_cons, follow_of_entry hlook, hfollow]⟩

/-- Whether a link at the end is kept or followed makes a difference only if there is one. -/
theorem follow_kept (t : FileTree) (links : Nat) (place : Place) (names : List Text) :
    t.follow .kept links place names = t.follow .followed links place names ∨
      ∃ place' target, t.follow .kept links place names = .ok (.taken place' (.link target)) := by
  fun_induction follow t .kept links place names with
  | case1 links place entry hentry => exact .inl (follow_nil t _ _ hentry).symm
  | case2 links place hnone => exact .inl (by rw [follow_nil_eq, hnone])
  | case3 links place name rest reason hlook => exact .inl (follow_of_error hlook).symm
  | case4 links place name rest hlook hempty =>
    exact .inl ((follow_of_nothing hlook).trans (if_pos hempty)).symm
  | case5 links place name rest hlook hempty =>
    exact .inl ((follow_of_nothing hlook).trans (if_neg hempty)).symm
  | case6 links place name rest target => exact .inr ⟨_, _, rfl⟩
  | case7 place name rest target hlook =>
    exact .inl (follow_of_link_zero hlook (not_kept rest)).symm
  | case8 place name rest target hlook hkept links ih =>
    rwa [follow_of_link hlook (not_kept rest)]
  | case9 links place name rest next hlook ih => rwa [follow_of_entry hlook]

/-- Behind a path that leads somewhere, the way goes on from there, whatever it is followed by. -/
theorem follow_append {entry : Entry}
    (h : t.follow .followed links place names = .ok (.taken next entry)) :
    ∃ links', ∀ last rest, rest ≠ [] →
      t.follow last links place (names ++ rest) = t.follow last links' next rest := by
  fun_induction follow t .followed links place names with
  | case1 links place entry' hentry =>
    cases h
    exact ⟨links, fun last rest _ => rfl⟩
  | case2 | case3 | case4 | case5 | case7 => cases h
  | case6 links place name rest' target hlook hkept => exact absurd hkept (not_kept rest')
  | case8 place name rest' target hlook hkept links ih =>
    obtain ⟨links', hon⟩ := ih h
    refine ⟨links', fun last rest hrest => ?_⟩
    have hlast : ¬((rest' ++ rest).isEmpty && last == .kept) = true := by simp [hrest]
    rw [List.cons_append, follow_of_link hlook hlast, ← List.append_assoc]
    exact hon last rest hrest
  | case9 links place name rest' next' hlook ih =>
    obtain ⟨links', hon⟩ := ih h
    refine ⟨links', fun last rest hrest => ?_⟩
    rw [List.cons_append, follow_of_entry hlook]
    exact hon last rest hrest

/-- Nothing is reached below a file. -/
theorem follow_file {contents : Bytes} {mode : Nat}
    (h : t.get? place = some (.file contents mode)) (hnames : names ≠ []) :
    t.follow last links place names = .error .notDirectory := by
  obtain ⟨name, rest, rfl⟩ := List.exists_cons_of_ne_nil hnames
  exact follow_of_not_directory (by rw [h]; exact fun heq => by cases heq)

/-- A path leads to what is there. -/
theorem follow_agrees (h : t.follow last links place names = .ok spot) : spot.Agrees t := by
  fun_induction follow t last links place names with
  | case1 links place entry hentry => cases h; exact hentry
  | case2 | case3 | case5 | case7 => cases h
  | case4 links place name rest hlook hempty =>
    cases h
    exact ⟨get?_of_look hlook, (look_eq_nothing hlook).2⟩
  | case6 links place name rest target hlook => cases h; exact (look_eq_link hlook).2
  | case8 place name rest target hlook hkept links ih => exact ih h
  | case9 links place name rest next hlook ih => exact ih h

/-- A path leads to what stands where it leads. -/
theorem follow_taken {place' : Place} {entry : Entry}
    (h : t.follow last links place names = .ok (.taken place' entry)) :
    t.get? place' = some entry :=
  follow_agrees h

/-- A path that leads to nothing can be given to an entry of a directory. -/
theorem follow_vacant {directory : Place}
    (h : t.follow last links place names = .ok (.vacant directory name)) :
    t.get? directory = some .directory ∧ t.get? (directory ++ [name]) = none :=
  follow_agrees h

/-- What a single name leads to from a directory stands in there, unless it is a directory. -/
theorem follow_singleton (hrooted : t.IsRooted)
    (h : t.follow .kept links place [name] = .ok spot)
    (hspot : t.get? spot.place ≠ some .directory) :
    isPlain name = true ∧ spot.place = place ++ [name] := by
  cases hlook : t.look place name with
  | error reason =>
    rw [follow_of_error hlook] at h
    cases h
  | ok found =>
    cases found with
    | nothing =>
      rw [follow_of_nothing hlook] at h
      cases h
      exact ⟨(look_eq_nothing hlook).1, rfl⟩
    | link target =>
      rw [follow_of_link_kept hlook rfl] at h
      cases h
      exact ⟨(look_eq_link hlook).1, rfl⟩
    | entry next =>
      rw [follow_of_entry hlook] at h
      -- Dots lead to directories, which is not what was found.
      have hdots {directory : Place} (hdirectory : t.get? directory = some .directory)
          (h : t.follow .kept links directory [] = .ok spot) : False := by
        rw [follow_nil t _ _ hdirectory] at h
        cases h
        exact hspot hdirectory
      have hplace := get?_of_look hlook
      rcases look_cases hlook with ⟨hplain, hfound⟩ | ⟨-, hfound⟩ | ⟨-, -, hfound⟩
      · obtain ⟨rfl, entry, hentry, -⟩ := found_eq_entry hfound.symm
        rw [follow_nil t _ _ hentry] at h
        cases h
        exact ⟨hplain, rfl⟩
      · cases hfound
        exact (hdots hplace h).elim
      · cases hfound
        exact (hdots (hrooted place (by rw [hplace]; rfl)) h).elim

/-- A single name that is read in a directory is not missing on the way. -/
theorem follow_singleton_ne_missing (hrooted : t.IsRooted)
    (hplace : t.get? place = some .directory) :
    t.follow .kept links place [name] ≠ .error .missing := by
  intro h
  cases hlook : t.look place name with
  | error reason =>
    rw [follow_of_error hlook] at h
    rcases look_eq_error hlook with rfl | ⟨rfl, -⟩ <;> cases h
  | ok found =>
    cases found with
    | nothing =>
      rw [follow_of_nothing hlook] at h
      cases h
    | link target =>
      rw [follow_of_link_kept hlook rfl] at h
      cases h
    | entry next =>
      -- Whatever the name leads to is there.
      obtain ⟨entry, hentry⟩ : ∃ entry, t.get? next = some entry := by
        rcases look_cases hlook with ⟨-, hfound⟩ | ⟨-, hfound⟩ | ⟨-, -, hfound⟩
        · obtain ⟨rfl, entry, hentry, -⟩ := found_eq_entry hfound.symm
          exact ⟨entry, hentry⟩
        · cases hfound
          exact ⟨_, hplace⟩
        · cases hfound
          exact ⟨_, hrooted place (by rw [hplace]; rfl)⟩
      rw [follow_of_entry hlook, follow_nil t _ _ hentry] at h
      cases h

/-- What a path leads to stands under its last name in the directory of the path, unless it is a
directory itself. -/
theorem follow_last (hrooted : t.IsRooted) (hnames : names ≠ [])
    (h : t.follow .kept links place names = .ok spot)
    (hspot : t.get? spot.place ≠ some .directory) :
    ∃ directory,
      t.follow .followed links place names.dropLast = .ok (.taken directory .directory) ∧
        isPlain (names.getLast hnames) = true ∧
        spot.place = directory ++ [names.getLast hnames] := by
  obtain ⟨directory, hdirectory⟩ := follow_parent h hnames
  obtain ⟨links', hon⟩ := follow_append hdirectory
  have hlast := hon .kept [names.getLast hnames] (List.cons_ne_nil _ _)
  rw [List.dropLast_append_getLast, h] at hlast
  exact ⟨directory, hdirectory, follow_singleton hrooted hlast.symm hspot⟩

/-- A link that a path is kept at bears the last name of the path. -/
theorem follow_link {place' : Place} (hrooted : t.IsRooted)
    (hplace : ∀ target, t.get? place ≠ some (.link target))
    (h : t.follow .kept links place names = .ok (.taken place' (.link target))) :
    place'.getLast? = names.getLast? := by
  have hlink := follow_taken h
  by_cases hnames : names = []
  · rw [hnames, follow_nil_eq] at h
    split at h
    next entry hentry =>
      cases h
      exact absurd hentry (hplace target)
    next => cases h
  · obtain ⟨directory, -, -, heq⟩ := follow_last hrooted hnames h (by
      show t.get? place' ≠ some .directory
      rw [hlink]
      simp)
    have hplace' : place' = directory ++ [names.getLast hnames] := heq
    rw [hplace', List.getLast?_concat, List.getLast?_eq_some_getLast hnames]

/-- Where names do not lead anywhere, there is nothing, or one of them is too long. -/
theorem follow_eq_error (h : t.follow last links place names = .error reason) :
    reason = .nameTooLong ∨ reason.meansAbsent = true := by
  fun_induction follow t last links place names with
  | case1 | case4 | case6 => cases h
  | case2 | case5 | case7 =>
    cases h
    exact .inr rfl
  | case3 links place name rest other hlook =>
    cases h
    rcases look_eq_error hlook with rfl | ⟨rfl, -⟩
    · exact .inr rfl
    · exact .inl rfl
  | case8 _ _ _ _ _ _ _ ih | case9 _ _ _ _ _ _ ih => exact ih h

/-! ## Paths -/

/-- A path that can be looked up at all: this depends on no tree. -/
def IsLookable (path : Path) : Prop :=
  path.names.all Path.isStorable = true ∧ (Utf8.encode path.text).length ≤ pathLimit

/-- How long the text of an absolute path is. -/
theorem length_encode_text {names : List Text} (hnames : names ≠ []) :
    (Utf8.encode (Path.text ⟨.slash, names⟩)).length =
      (names.map fun name => (Utf8.encode name).length + 1).sum := by
  have htext : Path.text ⟨.slash, names⟩ = ['/'] ++ Text.joinWith ['/'] names := rfl
  have hslash : (Utf8.encode ['/']).length = 1 := rfl
  rw [htext, Utf8.encode_append, List.length_append, hslash, Nat.add_comm,
    Text.length_encode_joinWith names hnames]

variable {path : Path}

/-- What is above a path that can be looked up can be looked up as well: its text is no longer, but
for the dot that stands for no name at all. -/
theorem IsLookable.parent (h : IsLookable path) : IsLookable path.parent := by
  obtain ⟨hstorable, hlength⟩ := h
  refine ⟨?_, ?_⟩
  · rw [List.all_eq_true] at hstorable ⊢
    intro name hname
    exact hstorable name (List.dropLast_subset _ hname)
  · by_cases hdot : path.root = .relative ∧ path.names.dropLast = []
    · have htext : path.parent.text = ['.'] := by simp [Path.text, Path.parent, hdot]
      rw [htext]
      decide
    · have htext : path.parent.text =
          path.root.text ++ Text.joinWith ['/'] path.names.dropLast := by
        unfold Path.text Path.parent
        split
        next hroot hnames => exact absurd ⟨hroot, hnames⟩ hdot
        next => rfl
      have hwhole : path.root.text ++ Text.joinWith ['/'] path.names <+: path.text := by
        unfold Path.text
        split
        next hroot hnames => rw [hroot, hnames]; exact List.nil_prefix
        next => exact List.prefix_rfl
      -- The names that are left are the first ones, and so is what is written of them.
      obtain ⟨tail, htail⟩ : path.parent.text <+: path.text := by
        rw [htext]
        refine List.IsPrefix.trans ?_ hwhole
        exact (List.prefix_append_right_inj _).mpr (Text.joinWith_dropLast_prefix ['/'] path.names)
      rw [← htail, Utf8.encode_append, List.length_append] at hlength
      exact Nat.le_trans (Nat.le_add_right _ _) hlength

/-- A path that can be looked up is followed, as many links as it takes up to the limit. -/
theorem locate_of_isLookable (h : IsLookable path) (t : FileTree) (last : LastLink) :
    t.locate path last =
      (t.follow last linkLimit [] path.names).mapError fun reason => { reason, path } := by
  rw [locate, h.1, if_neg (by simp), if_neg (Nat.not_lt.mpr h.2)]

/-- What cannot be looked up in one tree cannot be looked up in another one either. -/
theorem locate_of_not_isLookable (h : ¬IsLookable path) (t u : FileTree) (last last' : LastLink) :
    t.locate path last = u.locate path last' := by
  unfold locate
  split_ifs with hnull hlong
  · rfl
  · rfl
  · exact absurd ⟨by simpa using hnull, Nat.not_lt.mp hlong⟩ h

theorem locate_eq_ok (h : t.locate path last = .ok spot) :
    IsLookable path ∧ t.follow last linkLimit [] path.names = .ok spot := by
  unfold locate at h
  split_ifs at h with hnull hlong
  exact ⟨⟨by simpa using hnull, Nat.not_lt.mp hlong⟩, Except.mapError_eq_ok.mp h⟩

/-- A path is missing only where it was followed. -/
theorem follow_of_locate_missing {fault : FileFault} (h : t.locate path last = .error fault)
    (hreason : fault.reason = .missing) :
    t.follow last linkLimit [] path.names = .error .missing := by
  by_cases hlookable : IsLookable path
  · rw [locate_of_isLookable hlookable] at h
    cases hfollow : t.follow last linkLimit [] path.names with
    | ok spot => rw [hfollow] at h; cases h
    | error reason =>
      rw [hfollow] at h
      cases h
      exact congrArg Except.error hreason
  · unfold locate at h
    split_ifs at h with hnull hlong
    · cases h; cases hreason
    · cases h; cases hreason
    · exact absurd ⟨by simpa using hnull, Nat.not_lt.mp hlong⟩ hlookable

/-- What a path leads to, by its way. -/
theorem status_of_isLookable (h : IsLookable path) (t : FileTree) :
    t.status path = match t.follow .followed linkLimit [] path.names with
      | .ok (.taken place entry) => .ok (place, entry)
      | .ok (.vacant ..) => .error { reason := .missing, path }
      | .error reason => .error { reason, path } := by
  rw [status, locate_of_isLookable h]
  rcases t.follow .followed linkLimit [] path.names with _ | ⟨_ | _⟩ <;> rfl

theorem isLookable_of_status {found : Place × Entry} (h : t.status path last = .ok found) :
    IsLookable path := by
  rw [status] at h
  obtain ⟨spot, hlocate, -⟩ := Except.bind_eq_ok.mp h
  exact (locate_eq_ok hlocate).1

theorem isLookable_of_isDirectory (h : t.isDirectory path = true) : IsLookable path := by
  rw [isDirectory] at h
  split at h
  next hstatus => exact isLookable_of_status hstatus
  next => cases h

/-- A path leads to a directory if following it comes to one. -/
theorem isDirectory_iff (h : IsLookable path) (t : FileTree) :
    t.isDirectory path = true ↔
      ∃ place, t.follow .followed linkLimit [] path.names = .ok (.taken place .directory) := by
  rw [isDirectory, status_of_isLookable h]
  rcases t.follow .followed linkLimit [] path.names with _ | ⟨place, entry⟩ | _
  · simp
  · cases entry <;> simp [Entry.isDirectory]
  · simp

/-- The only reason why an entry cannot be looked up is that something is too long. -/
theorem status?_eq_error {fault : FileFault} (h : t.status? path = .error fault) :
    fault = { reason := .nameTooLong, path } := by
  -- Whatever else fails means absence, and is no fault here.
  obtain ⟨hstatus, hpresent⟩ : t.status path = .error fault ∧ fault.reason.meansAbsent = false := by
    unfold status? at h
    split at h
    next => cases h
    next other hstatus =>
      split at h
      next => cases h
      next hpresent =>
        cases h
        exact ⟨hstatus, by simpa using hpresent⟩
  unfold status at hstatus
  rcases hlocate : t.locate path with other | ⟨place, entry⟩ | ⟨directory, name⟩
  all_goals
    rw [hlocate] at hstatus
    cases hstatus
  · unfold locate at hlocate
    split_ifs at hlocate
    · cases hlocate
      cases hpresent
    · cases hlocate
      rfl
    · cases hfollow : t.follow .followed linkLimit [] path.names with
      | ok spot =>
        rw [hfollow] at hlocate
        cases hlocate
      | error reason =>
        rw [hfollow] at hlocate
        cases hlocate
        rcases follow_eq_error hfollow with rfl | habsent
        · rfl
        · rw [hpresent] at habsent
          cases habsent
  · cases hpresent

end FileTree

end RouteAtlas
