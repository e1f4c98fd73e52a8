import RouteAtlas.Files.Write
import RouteAtlas.Proofs.Files.Change

/-!
# What writing does to a tree

A file is replaced in four steps, and the tree after them is known in every case. Directories are
made first: nothing else in the tree changes then (`ensureDirectory_steps`), and where at most the
last one is missing, a second time makes no more of them (`withDirectory_withDirectory`). If a later
step fails, this is all that has changed, since the temporary file is gone again; if none fails, the
file stands where its path led, and nothing else is different (`replace_cases`).

Work on a tree gives a result and a tree, in that order: a step that fails may have changed the
tree, and what handles the fault is given the changed one. So the equations come first that say what
each way of composing work does with both (`Filing.run_bind` and those behind it).

Directories are made from the last one backwards. The last one is tried, and only where a name is
missing on the way to it the one above is made, by the same rule, and the last one is tried again.
The tree after that is found by going back along the path as well (`withDirectory_induction`); each
step of the induction changes the tree by one directory at most, and what is kept by one directory
is kept by all of them.
-/

namespace RouteAtlas

namespace Filing

variable {Fault Fault' α β : Type}

/-- What comes next is given the tree that was left. -/
theorem run_bind (work : Filing Fault α) (next : α → Filing Fault β) (t : FileTree) :
    (work >>= next).run.run t =
      match work.run.run t with
      | (.ok a, u) => (next a).run.run u
      | (.error fault, u) => (.error fault, u) := by
  rw [ExceptT.run_bind, StateT.run_bind]
  rcases work.run.run t with ⟨_ | _, u⟩ <;> rfl

/-- What handles a fault is given the tree of the work that failed. -/
theorem run_tryCatch (work : Filing Fault α) (handle : Fault → Filing Fault α) (t : FileTree) :
    (tryCatch work handle).run.run t =
      match work.run.run t with
      | (.ok a, u) => (.ok a, u)
      | (.error fault, u) => (handle fault).run.run u := by
  have hrun : (tryCatch work handle).run.run t =
      (work.run >>= fun
        | .ok a => pure (.ok a)
        | .error fault => (handle fault).run).run t := rfl
  rw [hrun, StateT.run_bind]
  rcases work.run.run t with ⟨_ | _, u⟩ <;> rfl

theorem run_adapt (f : Fault → Fault') (work : Filing Fault α) (t : FileTree) :
    (ExceptT.adapt f work : Filing Fault' α).run.run t =
      ((work.run.run t).1.mapError f, (work.run.run t).2) := rfl

theorem run_get (t : FileTree) : (get : Filing Fault FileTree).run.run t = (.ok t, t) := rfl

theorem run_modify (f : FileTree → FileTree) (t : FileTree) :
    (modify f : Filing Fault PUnit).run.run t = (.ok ⟨⟩, f t) := rfl

/-- What is decided without the tree leaves it alone. -/
theorem run_lift (x : Except Fault α) (t : FileTree) :
    (liftM x : Filing Fault α).run.run t = (x, t) := rfl

end Filing

namespace Files

variable {t u : FileTree} {path : Path}

/-- A directory is made where nothing stands. -/
theorem run_makeDirectory (path : Path) (t : FileTree) :
    (makeDirectory path).run.run t =
      match t.locate path .kept with
      | .error fault => (.error fault, t)
      | .ok (.taken ..) => (.error { reason := .existing, path }, t)
      | .ok (.vacant directory name) => (.ok (), t.put (directory ++ [name]) .directory) := by
  rw [makeDirectory, Filing.run_bind, Filing.run_get]
  dsimp only
  rcases t.locate path .kept with _ | ⟨_ | _⟩ <;> rfl

/-- If a directory cannot be made, what is done about it changes nothing: it keeps the fault, has
one of its own, or finds a directory there. -/
theorem exists_handler_of_makeOwnDirectory (path : Path) (t : FileTree) :
    ∃ handle : FileFault → Filing FileFault Unit,
      makeOwnDirectory path = tryCatch (makeDirectory path) handle ∧
      ∀ fault, ∃ result, (handle fault).run.run t = (result, t) ∧
        ∀ fault', result = .error fault' → fault'.reason = .missing → fault' = fault := by
  refine ⟨_, rfl, fun fault => ?_⟩
  by_cases hreason : fault.reason = .missing
  · rw [if_pos hreason]
    exact ⟨_, rfl, fun _ h _ => (Except.error.inj h).symm⟩
  · rw [if_neg hreason, Filing.run_bind, Filing.run_get]
    dsimp only
    cases hstatus : t.status? path with
    | error problem =>
      refine ⟨_, rfl, fun _ h hmissing => ?_⟩
      rw [← Except.error.inj h, FileTree.status?_eq_error hstatus] at hmissing
      cases hmissing
    | ok found =>
      rcases found with _ | _ | _ | _
      all_goals first
        | exact ⟨_, rfl, fun _ h _ => (Except.error.inj h).symm⟩
        | exact ⟨_, rfl, fun _ h => by cases h⟩

/-- Making a directory of its own changes nothing or makes the directory where nothing stood. That
a name is missing is said only if one is missing on the way. -/
theorem makeOwnDirectory_cases (path : Path) (t : FileTree) :
    (∃ directory name, t.locate path .kept = .ok (.vacant directory name) ∧
      (makeOwnDirectory path).run.run t =
        (.ok (), t.put (directory ++ [name]) .directory)) ∨
    (∃ result, (makeOwnDirectory path).run.run t = (result, t) ∧
      ∀ fault, result = .error fault → fault.reason = .missing →
        ∃ missing, t.locate path .kept = .error missing ∧ missing.reason = .missing) := by
  obtain ⟨handle, hmake, hhandle⟩ := exists_handler_of_makeOwnDirectory path t
  rw [hmake, Filing.run_tryCatch, run_makeDirectory]
  cases hlocate : t.locate path .kept with
  | error fault =>
    obtain ⟨result, hrun, hfault⟩ := hhandle fault
    exact .inr ⟨result, hrun, fun fault' h hmissing =>
      ⟨fault, rfl, hfault fault' h hmissing ▸ hmissing⟩⟩
  | ok spot =>
    cases spot with
    | taken place entry =>
      obtain ⟨result, hrun, hfault⟩ := hhandle { reason := .existing, path }
      refine .inr ⟨result, hrun, fun fault' h hmissing => ?_⟩
      rw [hfault fault' h hmissing] at hmissing
      cases hmissing
    | vacant directory name => exact .inl ⟨directory, name, rfl, rfl⟩

/-- Making a directory with those above it makes it where nothing stood, or changes nothing, or
makes the one above first, because a name is missing on the way. -/
theorem ensureDirectory_cases (path : Path) (t : FileTree) :
    (∃ directory name, t.locate path .kept = .ok (.vacant directory name) ∧
      (ensureDirectory path).run.run t = (.ok (), t.put (directory ++ [name]) .directory)) ∨
    (∃ result, (ensureDirectory path).run.run t = (result, t)) ∨
    (path.names ≠ [] ∧
      (∃ missing, t.locate path .kept = .error missing ∧ missing.reason = .missing) ∧
      (ensureDirectory path).run.run t =
        match (ensureDirectory path.parent).run.run t with
        | (.ok (), u) => (makeOwnDirectory path).run.run u
        | (.error fault, u) => (.error fault, u)) := by
  rw [ensureDirectory, Filing.run_tryCatch]
  rcases makeOwnDirectory_cases path t with
    ⟨directory, name, hlocate, hrun⟩ | ⟨result, hrun, hmissing⟩
  · exact .inl ⟨directory, name, hlocate, by rw [hrun]⟩
  · rw [hrun]
    cases result with
    | ok a => exact .inr (.inl ⟨_, rfl⟩)
    | error fault =>
      dsimp only
      split
      next => exact .inr (.inl ⟨_, rfl⟩)
      next hnames =>
        split
        next hreason =>
          -- A name is missing on the way, so the directory above is made first.
          refine .inr (.inr ⟨hnames, hmissing fault rfl hreason, ?_⟩)
          rw [Filing.run_bind]
          rcases (ensureDirectory path.parent).run.run t with ⟨_ | _, u⟩ <;> rfl
        next => exact .inr (.inl ⟨_, rfl⟩)

/-- The tree after directories were made. -/
def withDirectory (t : FileTree) (path : Path) : FileTree := ((ensureDirectory path).run.run t).2

/-- The tree after directories were made is found by going back along the path. It is the tree
before, or the one with the last directory of the path; or else it comes from the tree for the
parent of the path, with nothing more or with one more try at the last directory. -/
theorem withDirectory_induction (t : FileTree) {motive : Path → FileTree → Prop}
    (same : ∀ path, motive path t)
    (made : ∀ path directory name, t.locate path .kept = .ok (.vacant directory name) →
      motive path (t.put (directory ++ [name]) .directory))
    (failed : ∀ path u, path.names ≠ [] → motive path.parent u → motive path u)
    (retried : ∀ path u, path.names ≠ [] →
      (∃ missing, t.locate path .kept = .error missing ∧ missing.reason = .missing) →
      motive path.parent u → motive path ((makeOwnDirectory path).run.run u).2)
    (path : Path) : motive path (withDirectory t path) := by
  induction hlength : path.names.length using Nat.strongRecOn generalizing path with
  | ind n ih =>
    unfold withDirectory
    rcases ensureDirectory_cases path t with
      ⟨directory, name, hlocate, hrun⟩ | ⟨result, hrun⟩ | ⟨hnames, hmissing, hrun⟩
    · rw [hrun]; exact made path directory name hlocate
    · rw [hrun]; exact same path
    · have hparent := ih path.parent.names.length (by
        have := List.length_pos_iff.mpr hnames
        simp only [Path.parent, List.length_dropLast]
        omega) path.parent rfl
      rw [withDirectory] at hparent
      rw [hrun]
      generalize (ensureDirectory path.parent).run.run t = result at hparent ⊢
      obtain ⟨_ | _, u⟩ := result
      · exact failed path u hnames hparent
      · exact retried path u hnames hmissing hparent

/-- What holds of a tree and itself, and from one tree to the next when a directory is made where a
path leads to nothing, holds before and after directories are made. -/
theorem ensureDirectory_steps {R : FileTree → FileTree → Prop} (refl : ∀ t, R t t)
    (trans : ∀ {t u v}, R t u → R u v → R t v)
    (step : ∀ {t : FileTree} {path : Path} {directory : Place} {name : Text},
      t.locate path .kept = .ok (.vacant directory name) →
      R t (t.put (directory ++ [name]) .directory))
    (path : Path) (t : FileTree) : R t (withDirectory t path) := by
  have hown (path : Path) (t : FileTree) : R t ((makeOwnDirectory path).run.run t).2 := by
    rcases makeOwnDirectory_cases path t with ⟨directory, name, hlocate, hrun⟩ | ⟨result, hrun, -⟩
    · rw [hrun]; exact step hlocate
    · rw [hrun]; exact refl t
  exact withDirectory_induction (motive := fun _ u => R t u) t (fun _ => refl t)
    (fun _ _ _ hlocate => step hlocate) (fun _ _ _ hparent => hparent)
    (fun path u _ _ hparent => trans hparent (hown path u)) path

/-- Apart from new directories, the trees are the same. -/
def OnlyDirectoriesNew (t u : FileTree) : Prop :=
  ∀ place, u.get? place = t.get? place ∨
    t.get? place = none ∧ u.get? place = some .directory

theorem concat_ne_nil (directory : Place) (name : Text) : directory ++ [name] ≠ [] :=
  List.append_ne_nil_of_right_ne_nil _ (List.cons_ne_nil _ _)

/-- Making directories adds nothing but directories. -/
theorem onlyDirectoriesNew_withDirectory (path : Path) (t : FileTree) :
    OnlyDirectoriesNew t (withDirectory t path) := by
  refine ensureDirectory_steps (fun t place => .inl rfl) ?_ ?_ path t
  · intro t u v htu huv place
    rcases huv place with h | ⟨hnone, hnew⟩
    · rw [h]; exact htu place
    · rcases htu place with h | ⟨-, h⟩
      · exact .inr ⟨h ▸ hnone, hnew⟩
      · rw [hnone] at h; cases h
  · intro t path directory name hlocate place
    rw [FileTree.get?_put_of_ne_nil t (concat_ne_nil directory name)]
    split
    next h =>
      rw [h]
      exact .inr ⟨(FileTree.follow_vacant (FileTree.locate_eq_ok hlocate).2).2, rfl⟩
    next => exact .inl rfl

/-- A directory that is made keeps a tree rooted. -/
theorem isRooted_put_directory {directory : Place} {name : Text} (hrooted : t.IsRooted)
    (h : t.locate path .kept = .ok (.vacant directory name)) :
    (t.put (directory ++ [name]) .directory).IsRooted := by
  have hdirectory := (FileTree.follow_vacant (FileTree.locate_eq_ok h).2).1
  exact hrooted.put (concat_ne_nil directory name) (by rwa [List.dropLast_concat]) fun _ => rfl

/-- Making directories keeps a tree rooted. -/
theorem isRooted_withDirectory (path : Path) (t : FileTree) (h : t.IsRooted) :
    (withDirectory t path).IsRooted := by
  exact ensureDirectory_steps (R := fun t u => t.IsRooted → u.IsRooted) (fun t => id)
    (fun htu huv h => huv (htu h)) (fun hlocate hrooted => isRooted_put_directory hrooted hlocate)
    path t h

/-- Making directories leaves alone what new files are denied. -/
theorem umask_withDirectory (path : Path) (t : FileTree) :
    (withDirectory t path).umask = t.umask :=
  ensureDirectory_steps (R := fun t u => u.umask = t.umask) (fun _ => rfl)
    (fun htu huv => huv.trans htu) (fun _ => rfl) path t

/-- Directories are made only where the path leads to nothing. -/
theorem withDirectory_eq_self
    (hvacant : ∀ directory name, t.follow .followed FileTree.linkLimit [] path.names ≠
      .ok (.vacant directory name))
    (hmissing : t.follow .followed FileTree.linkLimit [] path.names ≠ .error .missing) :
    withDirectory t path = t := by
  unfold withDirectory
  rcases ensureDirectory_cases path t with
    ⟨directory, name, hlocate, hrun⟩ | ⟨result, hrun⟩ | ⟨-, ⟨fault, hlocate, hreason⟩, hrun⟩
  · have hkept := (FileTree.locate_eq_ok hlocate).2
    rcases t.follow_kept FileTree.linkLimit [] path.names with h | ⟨place, target, h⟩
    · exact absurd (h.symm.trans hkept) (hvacant directory name)
    · rw [hkept] at h; cases h
  · rw [hrun]
  · have hkept := FileTree.follow_of_locate_missing hlocate hreason
    rcases t.follow_kept FileTree.linkLimit [] path.names with h | ⟨place, target, h⟩
    · exact absurd (h.symm.trans hkept) hmissing
    · rw [hkept] at h; cases h

/-- Where a directory is, none has to be made. -/
theorem withDirectory_of_isDirectory (h : t.isDirectory path = true) :
    withDirectory t path = t := by
  have hlookable := FileTree.isLookable_of_isDirectory h
  obtain ⟨place, hplace⟩ := (FileTree.isDirectory_iff hlookable t).mp h
  exact withDirectory_eq_self (by simp [hplace]) (by simp [hplace])

/-- Where the directory above is there, at most the last one is made. -/
theorem withDirectory_of_isDirectory_parent (hrooted : t.IsRooted) (hnames : path.names ≠ [])
    (h : t.isDirectory path.parent = true) :
    withDirectory t path = t ∨
      ∃ directory name, t.locate path .kept = .ok (.vacant directory name) ∧
        withDirectory t path = t.put (directory ++ [name]) .directory := by
  unfold withDirectory
  rcases ensureDirectory_cases path t with
    ⟨directory, name, hlocate, hrun⟩ | ⟨result, hrun⟩ | ⟨-, ⟨fault, hlocate, hreason⟩, hrun⟩
  · rw [hrun]
    exact .inr ⟨directory, name, hlocate, rfl⟩
  · rw [hrun]
    exact .inl rfl
  · -- No name is missing on the way, since it leads to the directory above.
    have hmissing := FileTree.follow_of_locate_missing hlocate hreason
    have hparent := FileTree.isLookable_of_isDirectory h
    obtain ⟨place, hplace⟩ := (FileTree.isDirectory_iff hparent t).mp h
    obtain ⟨links, hon⟩ := FileTree.follow_append hplace
    have hlast := hon .kept [path.names.getLast hnames] (List.cons_ne_nil _ _)
    rw [Path.parent, List.dropLast_append_getLast, hmissing] at hlast
    exact absurd hlast.symm
      (FileTree.follow_singleton_ne_missing hrooted (FileTree.follow_taken hplace))

/-- A path leads to the directory that was made for it. -/
theorem follow_put_directory {directory : Place} {name : Text} (hrooted : t.IsRooted)
    (h : t.locate path .kept = .ok (.vacant directory name)) :
    (t.put (directory ++ [name]) .directory).follow .followed FileTree.linkLimit [] path.names =
      .ok (.taken (directory ++ [name]) .directory) := by
  have hfollow := (FileTree.locate_eq_ok h).2
  have hgrown := FileTree.grownAt_put (concat_ne_nil directory name) hrooted
    (FileTree.follow_vacant hfollow).2
  obtain ⟨links, hgo⟩ := FileTree.follow_grown hgrown hfollow
  have hhere := (hgo .followed []).1
  rwa [List.append_nil, FileTree.follow_nil _ _ _ hgrown.base] at hhere

/-- A directory that was made is there. -/
theorem isDirectory_put_directory {directory : Place} {name : Text} (hrooted : t.IsRooted)
    (h : t.locate path .kept = .ok (.vacant directory name)) :
    (t.put (directory ++ [name]) .directory).isDirectory path = true :=
  (FileTree.isDirectory_iff (FileTree.locate_eq_ok h).1 _).mpr ⟨_, follow_put_directory hrooted h⟩

/-- Where the directory above is there, nothing is left to be made after the first time. -/
theorem withDirectory_withDirectory (hrooted : t.IsRooted) (hnames : path.names ≠ [])
    (h : t.isDirectory path.parent = true) :
    withDirectory (withDirectory t path) path = withDirectory t path := by
  rcases withDirectory_of_isDirectory_parent hrooted hnames h with
    hsame | ⟨directory, name, hlocate, hmade⟩
  · rw [hsame, hsame]
  · rw [hmade]
    exact withDirectory_of_isDirectory (isDirectory_put_directory hrooted hlocate)

/-- A directory that is made behind new ones is made below the first of them, if the path stays in
them. -/
theorem grownAt_makeOwnDirectory {front rest : List Text} {directory : Place} {name : Text}
    (hgrown : FileTree.GrownAt t u (directory ++ [name]))
    (hfollow : t.follow .kept FileTree.linkLimit [] front = .ok (.vacant directory name))
    (hsplit : path.names = front ++ rest) (hnames : ∀ name ∈ rest, FileTree.IsTame name) :
    FileTree.GrownAt t ((makeOwnDirectory path).run.run u).2 (directory ++ [name]) := by
  rcases makeOwnDirectory_cases path u with ⟨d, m, hvacant, hrun⟩ | ⟨result, hrun, -⟩
  · -- The new directory stands where the way through the others ends.
    obtain ⟨links, hgo⟩ := FileTree.follow_grown hgrown hfollow
    have hend := (FileTree.locate_eq_ok hvacant).2
    rw [hsplit, (hgo _ _).1] at hend
    have hbelow : FileTree.EndsBelow (directory ++ [name]) (.ok (.vacant d m)) := by
      rw [← hend]
      exact FileTree.follow_below hgrown List.prefix_rfl hnames
    rw [hrun]
    exact hgrown.put (concat_ne_nil d m) (hbelow.trans (List.prefix_append d [m]))
  · rw [hrun]
    exact hgrown

/-- Where directories are made for a path that stays in them, they are new at and below one place:
the first names of the path lead there, and to nothing before. -/
theorem withDirectory_grown (path : Path) (hrooted : t.IsRooted)
    (hnames : ∀ name ∈ path.names, FileTree.IsTame name) :
    withDirectory t path = t ∨
      ∃ front directory name rest, path.names = front ++ rest ∧
        t.follow .kept FileTree.linkLimit [] front = .ok (.vacant directory name) ∧
        FileTree.GrownAt t (withDirectory t path) (directory ++ [name]) := by
  revert hnames
  -- The last name of a path that has names.
  have hconcat {path : Path} (hne : path.names ≠ []) :
      ∃ last, path.names = path.parent.names ++ [last] :=
    ⟨_, (List.dropLast_append_getLast hne).symm⟩
  have hparentNames {path : Path} (hnames : ∀ name ∈ path.names, FileTree.IsTame name) :
      ∀ name ∈ path.parent.names, FileTree.IsTame name :=
    fun name hname => hnames name (List.dropLast_subset _ hname)
  refine withDirectory_induction (motive := fun path u =>
    (∀ name ∈ path.names, FileTree.IsTame name) → u = t ∨
      ∃ front directory name rest, path.names = front ++ rest ∧
        t.follow .kept FileTree.linkLimit [] front = .ok (.vacant directory name) ∧
        FileTree.GrownAt t u (directory ++ [name])) t (fun _ _ => .inl rfl) ?_ ?_ ?_ path
  · intro path directory name hlocate hnames
    have hfollow := (FileTree.locate_eq_ok hlocate).2
    exact .inr ⟨path.names, directory, name, [], (List.append_nil _).symm, hfollow,
      FileTree.grownAt_put (concat_ne_nil directory name) hrooted
        (FileTree.follow_vacant hfollow).2⟩
  · intro path u hne hparent hnames
    rcases hparent (hparentNames hnames) with
      hsame | ⟨front, directory, name, rest, hsplit, hfollow, hgrown⟩
    · exact .inl hsame
    · obtain ⟨last, hlast⟩ := hconcat hne
      exact .inr ⟨front, directory, name, rest ++ [last],
        by rw [hlast, hsplit, List.append_assoc], hfollow, hgrown⟩
  · rintro path u hne ⟨missing, hlocate, -⟩ hparent hnames
    rcases hparent (hparentNames hnames) with
      hsame | ⟨front, directory, name, rest, hsplit, hfollow, hgrown⟩
    · -- Nothing has changed, so a name on the way is missing still.
      refine .inl ?_
      rw [hsame]
      rcases makeOwnDirectory_cases path t with ⟨_, _, hvacant, -⟩ | ⟨result, hrun, -⟩
      · rw [hlocate] at hvacant; cases hvacant
      · rw [hrun]
    · obtain ⟨last, hlast⟩ := hconcat hne
      have hnames' : path.names = front ++ (rest ++ [last]) := by
        rw [hlast, hsplit, List.append_assoc]
      exact .inr ⟨front, directory, name, _, hnames', hfollow,
        grownAt_makeOwnDirectory hgrown hfollow hnames' fun name hname =>
          hnames name (hnames' ▸ List.mem_append_right front hname)⟩

/-! ## Replacing a file -/

/-- Where a temporary file can be made for a path. -/
structure HasRoomFor (t : FileTree) (path : Path) (temporary : Place) : Prop where
  leads : ∃ directory name, t.locate (temporaryPath t path) .kept = .ok (.vacant directory name) ∧
    temporary = directory ++ [name]
  ne_nil : temporary ≠ []
  nothing : t.get? temporary = none
  directory : t.get? temporary.dropLast = some .directory

/-- A temporary file keeps a tree rooted. -/
theorem HasRoomFor.isRooted_put {temporary : Place} (h : HasRoomFor t path temporary)
    (hrooted : t.IsRooted) (entry : Entry) : (t.put temporary entry).IsRooted :=
  hrooted.put h.ne_nil h.directory fun heq => by
    rw [h.nothing] at heq
    cases heq

/-- Making a temporary file puts it where nothing stood, or changes nothing. -/
theorem makeTemporary_cases (path : Path) (mode : Nat) (t : FileTree) :
    (∃ fault, (makeTemporary path mode).run.run t = (.error fault, t)) ∨
    (∃ named place, HasRoomFor t path place ∧
      (makeTemporary path mode).run.run t = (.ok (named, place), t.put place (.file [] mode))) := by
  rw [makeTemporary, Filing.run_bind, Filing.run_get]
  dsimp only
  cases hlocate : t.locate (temporaryPath t path) .kept with
  | error fault => exact .inl ⟨fault, rfl⟩
  | ok spot =>
    cases spot with
    | taken place entry => exact .inl ⟨_, rfl⟩
    | vacant place name =>
      obtain ⟨hdirectory, hnone⟩ := FileTree.follow_vacant (FileTree.locate_eq_ok hlocate).2
      refine .inr ⟨_, _, ⟨⟨place, name, hlocate, rfl⟩, concat_ne_nil place name, hnone, ?_⟩, rfl⟩
      rwa [List.dropLast_concat]

/-- Renaming puts an entry where a path leads, unless a directory stands there, or changes
nothing. Which of the two it is does not depend on the entry. -/
theorem rename_cases (from_ : Place) (named path : Path) (t : FileTree) :
    (∃ fault, ∀ entry, (rename from_ named path entry).run.run t = (.error fault, t)) ∨
    (∃ spot, t.locate path .kept = .ok spot ∧ t.get? spot.place ≠ some .directory ∧
      ∀ entry, (rename from_ named path entry).run.run t =
        (.ok (), (t.erase from_).put spot.place entry)) := by
  simp only [rename, Filing.run_bind, Filing.run_get]
  split
  next => exact .inl ⟨_, fun _ => rfl⟩
  next =>
    cases hlocate : t.locate path .kept with
    | error fault => exact .inl ⟨_, fun _ => rfl⟩
    | ok spot =>
      have hfollow := (FileTree.locate_eq_ok hlocate).2
      cases spot with
      | taken place found =>
        have htaken := FileTree.follow_taken hfollow
        cases found with
        | directory => exact .inl ⟨_, fun _ => rfl⟩
        | file => exact .inr ⟨_, rfl, by rw [Spot.place, htaken]; simp, fun _ => rfl⟩
        | link => exact .inr ⟨_, rfl, by rw [Spot.place, htaken]; simp, fun _ => rfl⟩
      | vacant directory name =>
        exact .inr ⟨_, rfl, by rw [Spot.place, (FileTree.follow_vacant hfollow).2]; simp, fun _ => rfl⟩

/-- How a file came to stand where a path leads: a temporary file had been made, the path was
followed, and it led to no directory. -/
structure ReplacedAt (t : FileTree) (path : Path) (mode : Nat) (temporary : Place) (spot : Spot) :
    Prop where
  room : HasRoomFor t path temporary
  permissions : modeFor t path = .ok mode
  leads : (t.put temporary (.file [] mode)).locate path .kept = .ok spot
  noDirectory : (t.put temporary (.file [] mode)).get? spot.place ≠ some .directory

/-- Whether a file can be replaced does not depend on what it shall contain: either the path allows
of no contents, for one and the same reason, or of any. Contents that cannot be written never
replace anything. -/
theorem replace_alike {Fault : Type} (unusable : FileFault → Fault) (path : Path) (t : FileTree) :
    ((∃ problem, ∀ bytes, (replace unusable path (.ok bytes)).run.run t =
        (.error (unusable problem), withDirectory t path.parent)) ∨
      ∃ mode temporary spot, ReplacedAt (withDirectory t path.parent) path mode temporary spot ∧
        ∀ bytes, (replace unusable path (.ok bytes)).run.run t =
          (.ok (), (withDirectory t path.parent).put spot.place (.file bytes mode))) ∧
    ∀ fault, ∃ fault', (fault' = fault ∨ ∃ problem, fault' = unusable problem) ∧
      (replace unusable path (.error fault)).run.run t =
        (.error fault', withDirectory t path.parent) := by
  simp only [replace, Filing.run_bind, Filing.run_adapt, withDirectory]
  generalize (ensureDirectory path.parent).run.run t = made
  obtain ⟨_ | _, u⟩ := made
  · exact ⟨.inl ⟨_, fun _ => rfl⟩, fun fault => ⟨_, .inr ⟨_, rfl⟩, rfl⟩⟩
  · dsimp only [Except.mapError]
    simp only [Filing.run_get, Filing.run_lift]
    cases hmode : modeFor u path with
    | error fault => exact ⟨.inl ⟨_, fun _ => rfl⟩, fun fault => ⟨_, .inr ⟨_, rfl⟩, rfl⟩⟩
    | ok mode =>
      dsimp only [Except.mapError]
      rcases makeTemporary_cases path mode u with ⟨fault, hrun⟩ | ⟨named, temporary, hroom, hrun⟩
      · rw [hrun]
        exact ⟨.inl ⟨_, fun _ => rfl⟩, fun fault => ⟨_, .inr ⟨_, rfl⟩, rfl⟩⟩
      · rw [hrun]
        dsimp only [Except.mapError]
        -- Whatever fails from here on, the temporary file is erased and the tree is the same as
        -- before it.
        have herase := FileTree.erase_put hroom.ne_nil hroom.nothing (.file [] mode)
        simp only [Filing.run_tryCatch, Filing.run_bind, Filing.run_lift, Filing.run_adapt,
          Filing.run_modify, herase]
        constructor
        · rcases rename_cases temporary named path (u.put temporary (.file [] mode)) with
            ⟨fault, hrename⟩ | ⟨spot, hlocate, hno, hrename⟩
          · simp only [hrename, Except.mapError, herase]
            exact .inl ⟨fault, fun _ => rfl⟩
          · simp only [hrename, Except.mapError, herase]
            exact .inr ⟨mode, temporary, spot, ⟨hroom, hmode, hlocate, hno⟩, fun _ => rfl⟩
        · exact fun fault => ⟨fault, .inl rfl, rfl⟩

/-- **A file is replaced, or nothing is.** Apart from directories that were made, the tree is the
same if the file was not replaced; otherwise the file stands where its path led, and nothing else
is different. -/
theorem replace_cases {Fault : Type} (unusable : FileFault → Fault) (path : Path)
    (contents : Except Fault Bytes) (t : FileTree) :
    (∃ fault, (contents = .error fault ∨ ∃ problem, fault = unusable problem) ∧
      (replace unusable path contents).run.run t =
        (.error fault, withDirectory t path.parent)) ∨
    (∃ bytes mode temporary spot, contents = .ok bytes ∧
      ReplacedAt (withDirectory t path.parent) path mode temporary spot ∧
      (replace unusable path contents).run.run t =
        (.ok (), (withDirectory t path.parent).put spot.place (.file bytes mode))) := by
  obtain ⟨hbytes, hfault⟩ := replace_alike unusable path t
  cases contents with
  | error fault =>
    left
    obtain ⟨fault', hwhy, hrun⟩ := hfault fault
    refine ⟨fault', ?_, hrun⟩
    rcases hwhy with rfl | hproblem
    · exact .inl rfl
    · exact .inr hproblem
  | ok bytes =>
    rcases hbytes with ⟨problem, hrun⟩ | ⟨mode, temporary, spot, hreplaced, hrun⟩
    · exact .inl ⟨_, .inr ⟨problem, rfl⟩, hrun bytes⟩
    · exact .inr ⟨bytes, mode, temporary, spot, rfl, hreplaced, hrun bytes⟩

section ReplacedAt

variable {mode : Nat} {temporary : Place} {spot : Spot}

/-- A file does not take the place of the root. -/
theorem ReplacedAt.place_ne_nil (h : ReplacedAt t path mode temporary spot) : spot.place ≠ [] :=
  fun heq => h.noDirectory (by rw [heq, FileTree.get?_nil])

/-- Where the path leads once the file is in its place. -/
theorem ReplacedAt.leadsTo (h : ReplacedAt t path mode temporary spot) (bytes : Bytes) :
    FileTree.LeadsToReplaced (t.put temporary (.file [] mode))
      (t.put spot.place (.file bytes mode)) spot.place (.file bytes mode) FileTree.linkLimit []
      path.names := by
  refine FileTree.follow_replaced ⟨?_, h.noDirectory, ?_⟩ (FileTree.locate_eq_ok h.leads).2 rfl
  · rw [FileTree.get?_put_of_ne_nil t h.place_ne_nil]
    exact if_pos rfl
  · intro other hother hfile
    have htemporary : other ≠ temporary := by
      rintro rfl
      exact hfile [] mode (by rw [FileTree.get?_put_of_ne_nil t h.room.ne_nil, if_pos rfl])
    rw [FileTree.get?_put_of_ne_nil t h.place_ne_nil, if_neg hother,
      FileTree.get?_put_of_ne_nil t h.room.ne_nil, if_neg htemporary]

/-- The path leads to the file that was put there as long as its parent leads to a directory. If it
does not, the file replaced a link, and no way along either of them is left. -/
theorem ReplacedAt.status (h : ReplacedAt t path mode temporary spot) (bytes : Bytes) :
    (t.put spot.place (.file bytes mode)).isDirectory path.parent = true ∧
      (t.put spot.place (.file bytes mode)).status path = .ok (spot.place, .file bytes mode) ∨
    (t.put spot.place (.file bytes mode)).isDirectory path.parent = false ∧
      (t.put spot.place (.file bytes mode)).status path =
        .error { reason := .notDirectory, path } ∧
      ∃ target, t.get? spot.place = some (.link target) := by
  have hpath := (FileTree.locate_eq_ok h.leads).1
  have hparent := hpath.parent
  rw [FileTree.status_of_isLookable hpath]
  rcases h.leadsTo bytes with hfile | ⟨herror, hblocked, target, hlink⟩
  · have hnames : path.names ≠ [] := by
      intro hnil
      rw [hnil, FileTree.follow_nil _ _ _ (FileTree.get?_nil _)] at hfile
      exact absurd hfile (by simp)
    rw [hfile]
    exact .inl ⟨(FileTree.isDirectory_iff hparent _).mpr (FileTree.follow_parent hfile hnames), rfl⟩
  · -- The way is blocked by the file itself, which took the place of a link on it.
    rw [herror]
    refine .inr ⟨Bool.eq_false_iff.mpr fun hdirectory => ?_, rfl, target, ?_⟩
    · obtain ⟨place, hplace⟩ := (FileTree.isDirectory_iff hparent _).mp hdirectory
      rcases hblocked with h | h <;> rw [Path.parent, h] at hplace <;> cases hplace
    · rw [FileTree.get?_put_of_ne_nil t h.room.ne_nil] at hlink
      split at hlink
      · cases hlink
      · exact hlink

/-- The directory that holds the file is still there, unless the file replaced a link of its own
name. -/
theorem ReplacedAt.isDirectory_parent (h : ReplacedAt t path mode temporary spot) (bytes : Bytes)
    (hrooted : t.IsRooted)
    (hlinks : ∀ place target, t.get? place = some (.link target) →
      place.getLast? ≠ path.names.getLast?) :
    (t.put spot.place (.file bytes mode)).isDirectory path.parent = true := by
  rcases h.status bytes with ⟨hdirectory, -⟩ | ⟨-, -, target, hlink⟩
  · exact hdirectory
  · have hfollow := (FileTree.locate_eq_ok h.leads).2
    have hget : (t.put temporary (.file [] mode)).get? spot.place = some (.link target) := by
      rw [FileTree.get?_put_of_ne_nil t h.room.ne_nil, if_neg fun heq => ?_, hlink]
      rw [heq, h.room.nothing] at hlink
      cases hlink
    have hrooted' := h.room.isRooted_put hrooted (.file [] mode)
    cases spot with
    | taken place entry =>
      obtain rfl := Option.some.inj ((FileTree.follow_taken hfollow).symm.trans hget)
      exact absurd (FileTree.follow_link hrooted' (by simp) hfollow) (hlinks _ target hlink)
    | vacant directory name =>
      rw [Spot.place, (FileTree.follow_vacant hfollow).2] at hget
      cases hget

/-- A file that was replaced stands in a directory. -/
theorem ReplacedAt.isRooted_put (h : ReplacedAt t path mode temporary spot) (bytes : Bytes)
    (hrooted : t.IsRooted) : (t.put spot.place (.file bytes mode)).IsRooted := by
  have hfollow := (FileTree.locate_eq_ok h.leads).2
  have hparent : (t.put temporary (.file [] mode)).get? spot.place.dropLast = some .directory := by
    cases spot with
    | taken place entry =>
      exact h.room.isRooted_put hrooted _ place (by rw [FileTree.follow_taken hfollow]; rfl)
    | vacant directory name =>
      rw [Spot.place, List.dropLast_concat]
      exact (FileTree.follow_vacant hfollow).1
  have hno := h.noDirectory
  rw [FileTree.get?_put_of_ne_nil t h.room.ne_nil] at hparent hno
  refine hrooted.put h.place_ne_nil ?_ fun heq => ?_
  · split at hparent
    · cases hparent
    · exact hparent
  · split at hno
    next htemporary =>
      rw [htemporary, h.room.nothing] at heq
      cases heq
    next => exact absurd heq hno

/-- Where a file was replaced, no directories are made for it any more. -/
theorem ReplacedAt.withDirectory_parent (h : ReplacedAt t path mode temporary spot)
    (bytes : Bytes) :
    withDirectory (t.put spot.place (.file bytes mode)) path.parent =
      t.put spot.place (.file bytes mode) := by
  have hparent := (FileTree.locate_eq_ok h.leads).1.parent
  rcases h.leadsTo bytes with hfile | ⟨-, hblocked, -⟩
  · rcases h.status bytes with ⟨hdirectory, -⟩ | ⟨-, hstatus, -⟩
    · obtain ⟨place, hplace⟩ := (FileTree.isDirectory_iff hparent _).mp hdirectory
      exact withDirectory_eq_self (by simp [hplace]) (by simp [hplace])
    · rw [FileTree.status_of_isLookable (FileTree.locate_eq_ok h.leads).1, hfile] at hstatus
      cases hstatus
  · rcases hblocked with hblocked | hblocked <;>
      exact withDirectory_eq_self (by simp [Path.parent, hblocked])
        (by simp [Path.parent, hblocked])

end ReplacedAt

end Files

end RouteAtlas
