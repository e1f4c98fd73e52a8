import Mathlib.Data.List.Find
import RouteAtlas.Proofs.Files.Canonical
import RouteAtlas.Proofs.Files.Outcome

/-!
# Replacing a file once more

After a file was replaced, the same contents replace it once more, and the tree stays exactly as it
is (`ReplacedAt.again`). There has to be a way still to the directory of the path. Then the
temporary file gets the name that it had the first time, since nothing of that kind has been added
(`freshName_put`), and the path leads to the file, whose permissions are the same.

That the file is found again is a matter of where the path of its directory leads
(`ReplacedAt.status_parent`). That is why a way to it is asked for: the file may have taken the
place of a link on the way.
-/

namespace RouteAtlas.Files

variable {t u : FileTree} {path : Path} {mode : Nat} {temporary : Place} {spot : Spot}

/-- A directory that is there does not have to be made. -/
theorem run_ensureDirectory_of_isDirectory (h : t.isDirectory path = true) :
    (ensureDirectory path).run.run t = (.ok (), t) := by
  have hlookable := FileTree.isLookable_of_isDirectory h
  obtain ⟨place, hplace⟩ := (FileTree.isDirectory_iff hlookable t).mp h
  obtain ⟨found, entry, hlocate⟩ : ∃ found entry, t.locate path .kept = .ok (.taken found entry) := by
    rw [FileTree.locate_of_isLookable hlookable]
    rcases t.follow_kept FileTree.linkLimit [] path.names with hsame | ⟨found, target, hkept⟩
    · rw [hsame, hplace]
      exact ⟨_, _, rfl⟩
    · rw [hkept]
      exact ⟨_, _, rfl⟩
  rw [ensureDirectory, Filing.run_tryCatch, makeOwnDirectory, Filing.run_tryCatch,
    run_makeDirectory, hlocate]
  dsimp only
  have hstatus : t.status? path = .ok (some .directory) := by
    rw [FileTree.status?, FileTree.status_of_isLookable hlookable, hplace]
  rw [if_neg (by simp), Filing.run_bind, Filing.run_get]
  dsimp only
  rw [hstatus]
  rfl

/-- The permissions of a file are kept when it is replaced again. -/
theorem mod_of_modeFor (h : modeFor t path = .ok mode) : mode % 0o1000 = mode := by
  unfold modeFor at h
  split at h
  next place contents m _ =>
    cases h
    exact Nat.mod_mod m _
  next =>
    cases h
    exact Nat.mod_eq_of_lt (BitVec.isLt _)
  next =>
    cases h
    exact Nat.mod_eq_of_lt (BitVec.isLt _)
  next fault _ =>
    split at h
    · cases h
      exact Nat.mod_eq_of_lt (BitVec.isLt _)
    · cases h

/-- A file with another name than a candidate takes none of them away. -/
theorem freshName_put {directory place : Place} {name : Text} (entry : Entry)
    (hplace : place = directory ++ [name])
    (hfresh : t.get? (directory ++ [freshName t directory name]) = none) :
    freshName (t.put place entry) directory name = freshName t directory name := by
  have hsame : ∀ candidate ∈ (List.range (t.entries.length + 1)).map (temporaryName name),
      ((t.put place entry).get? (directory ++ [candidate])).isNone =
        (t.get? (directory ++ [candidate])).isNone := by
    intro candidate hcandidate
    obtain ⟨n, -, rfl⟩ := List.mem_map.mp hcandidate
    have hne : directory ++ [temporaryName name n] ≠ place := by
      intro heq
      rw [hplace, List.append_singleton_inj] at heq
      have hlength := length_temporaryName name n
      rw [heq.2] at hlength
      exact lt_irrefl _ hlength
    rw [FileTree.get?_put_of_ne_nil t (hplace ▸ concat_ne_nil directory name), if_neg hne]
  obtain ⟨more, hmore⟩ := Nat.exists_eq_add_of_le (t.length_entries_le_put place entry)
  unfold freshName at hfresh ⊢
  dsimp only at hfresh ⊢
  cases hfind : ((List.range (t.entries.length + 1)).map (temporaryName name)).find?
      fun candidate => (t.get? (directory ++ [candidate])).isNone with
  | none =>
    -- All candidates would be taken, the first one included.
    rw [hfind, Option.getD_none] at hfresh
    have htaken := List.find?_eq_none.mp hfind (temporaryName name 0)
      (List.mem_map_of_mem (List.mem_range.mpr (Nat.succ_pos _)))
    rw [hfresh] at htaken
    exact absurd rfl htaken
  | some candidate =>
    have hrange : (t.put place entry).entries.length + 1 = t.entries.length + 1 + more := by omega
    rw [hrange, List.range_add, List.map_append, List.find?_append, List.find?_congr hsame, hfind]
    rfl

/-! ## The way to the file -/

/-- The last name of the path is looked up in the directory of the path. -/
theorem ReplacedAt.isPlain_name (h : ReplacedAt t path mode temporary spot) (hrooted : t.IsRooted) :
    FileTree.isPlain path.name = true := by
  obtain ⟨hlocate, hno⟩ := h.leads_without hrooted
  obtain ⟨-, -, hplain, -⟩ :=
    FileTree.follow_last hrooted h.names_ne_nil (FileTree.locate_eq_ok hlocate).2 hno
  rwa [h.getLast_names] at hplain

theorem ReplacedAt.parent_names_append (h : ReplacedAt t path mode temporary spot) :
    path.parent.names ++ [path.name] = path.names := by
  rw [← h.getLast_names]
  exact List.dropLast_append_getLast h.names_ne_nil

section Again

variable {bytes : Bytes} (h : ReplacedAt t path mode temporary spot) (hrooted : t.IsRooted)
  (hdirectory : (t.put spot.place (.file bytes mode)).isDirectory path.parent = true)

include h hrooted hdirectory

/-- If there is still a way to the directory of the path, it leads to the same directory. -/
theorem ReplacedAt.status_parent :
    ∃ directory, t.status path.parent = .ok (directory, .directory) ∧
      (t.put spot.place (.file bytes mode)).status path.parent = .ok (directory, .directory) ∧
      spot.place = directory ++ [path.name] := by
  obtain ⟨directory, hstatus, hplace⟩ := h.stands hrooted
  refine ⟨directory, hstatus, ?_, hplace⟩
  have hlookable := FileTree.isLookable_of_isDirectory hdirectory
  obtain ⟨other, hother⟩ := (FileTree.isDirectory_iff hlookable _).mp hdirectory
  have hne : other ≠ spot.place := by
    rintro rfl
    have hget := FileTree.follow_taken hother
    rw [FileTree.get?_put_of_ne_nil t h.place_ne_nil, if_pos rfl] at hget
    cases hget
  -- A way that does not end at the new file was there before.
  have hbefore := FileTree.follow_of_put_file h.place_ne_nil hother hne
  rw [FileTree.follow_of_status hstatus] at hbefore
  cases hbefore
  rw [FileTree.status_of_isLookable hlookable, hother]

/-- The path leads to the file, and no link is at its end. -/
theorem ReplacedAt.follow_again :
    (t.put spot.place (.file bytes mode)).follow .kept FileTree.linkLimit [] path.names =
      .ok (.taken spot.place (.file bytes mode)) := by
  obtain ⟨directory, -, hstatus, hplace⟩ := h.status_parent hrooted hdirectory
  have hget : (t.put spot.place (.file bytes mode)).get? (directory ++ [path.name]) =
      some (.file bytes mode) := by
    rw [FileTree.get?_put_of_ne_nil t h.place_ne_nil, hplace, if_pos rfl]
  have hparent := FileTree.follow_of_status hstatus
  have hlook : (t.put spot.place (.file bytes mode)).look directory path.name =
      .ok (.entry (directory ++ [path.name])) := by
    rw [FileTree.look_of_isPlain (FileTree.follow_taken hparent) (h.isPlain_name hrooted),
      FileTree.found_of_file hget]
  obtain ⟨links, hon⟩ := FileTree.follow_append hparent
  rw [← h.parent_names_append, hon .kept [path.name] (List.cons_ne_nil _ _),
    FileTree.follow_of_entry hlook, FileTree.follow_nil _ _ _ hget, hplace]

/-- A temporary file can be made once more, at the same place. -/
theorem ReplacedAt.room_again (hhome : temporaryHome path = path.parent) :
    HasRoomFor (t.put spot.place (.file bytes mode)) path temporary := by
  obtain ⟨directory, hbefore, hafter, hplace⟩ := h.status_parent hrooted hdirectory
  obtain ⟨found, name, hlocate, htemporary⟩ := h.room.leads
  have hpath : temporaryPath t path =
      path.parent.child (freshName t directory path.name) := by
    rw [temporaryPath, hhome, hbefore]
  rw [hpath] at hlocate
  obtain ⟨hlookable, hfollow⟩ := FileTree.locate_eq_ok hlocate
  -- In the directory of the path, the name of the temporary file was not taken.
  obtain ⟨links, hon⟩ := FileTree.follow_append (FileTree.follow_of_status hbefore)
  have hlast := hon .kept [freshName t directory path.name] (List.cons_ne_nil _ _)
  have hnone := (FileTree.follow_vacant hfollow).2
  obtain ⟨hplain, hstands⟩ := FileTree.follow_singleton hrooted (hlast.symm.trans hfollow) (by
    show t.get? (found ++ [name]) ≠ some .directory
    rw [hnone]
    simp)
  have hstands : found ++ [name] = directory ++ [freshName t directory path.name] := hstands
  have hfresh := hnone
  rw [hstands] at hfresh
  have hsame := freshName_put (.file bytes mode) hplace hfresh
  have hget : (t.put spot.place (.file bytes mode)).get?
      (directory ++ [freshName t directory path.name]) = none := by
    rw [FileTree.get?_put_of_ne_nil t h.place_ne_nil, if_neg, hfresh]
    rw [← hstands, ← htemporary]
    exact (h.place_ne_temporary hrooted).symm
  have hparent := FileTree.follow_taken (FileTree.follow_of_status hafter)
  have hleads : (t.put spot.place (.file bytes mode)).locate
      (temporaryPath (t.put spot.place (.file bytes mode)) path) .kept =
        .ok (.vacant directory (freshName t directory path.name)) := by
    obtain ⟨links', hon'⟩ := FileTree.follow_append (FileTree.follow_of_status hafter)
    have hlook : (t.put spot.place (.file bytes mode)).look directory
        (freshName t directory path.name) = .ok .nothing := by
      rw [FileTree.look_of_isPlain hparent hplain, FileTree.found, hget]
    have hvacant := hon' .kept [freshName t directory path.name] (List.cons_ne_nil _ _)
    rw [FileTree.follow_of_nothing hlook] at hvacant
    rw [temporaryPath, hhome, hafter]
    dsimp only
    rw [hsame, FileTree.locate_of_isLookable hlookable]
    show Except.mapError _ ((t.put spot.place (.file bytes mode)).follow .kept FileTree.linkLimit []
      (path.parent.names ++ [freshName t directory path.name])) = _
    rw [hvacant]
    rfl
  have heq : temporary = directory ++ [freshName t directory path.name] := htemporary.trans hstands
  refine ⟨⟨directory, _, hleads, heq⟩, h.room.ne_nil, heq ▸ hget, ?_⟩
  rw [heq, List.dropLast_concat]
  exact hparent

/-- The file can be replaced once more. -/
theorem ReplacedAt.replacedAt_again (hhome : temporaryHome path = path.parent) :
    ReplacedAt (t.put spot.place (.file bytes mode)) path mode temporary
      (.taken spot.place (.file bytes mode)) := by
  have hroom := h.room_again hrooted hdirectory hhome
  have hlookable := (FileTree.locate_eq_ok h.leads).1
  have hmore := FileTree.extends_put hroom.ne_nil hroom.nothing (.file [] mode)
  have hfollow := hmore.follow_eq (h.follow_again hrooted hdirectory)
  refine ⟨hroom, ?_, ?_, ?_⟩
  · rcases h.status bytes with ⟨-, hstatus⟩ | ⟨hno, -⟩
    · rw [modeFor, hstatus]
      exact congrArg Except.ok (mod_of_modeFor h.permissions)
    · rw [hdirectory] at hno
      cases hno
  · rw [FileTree.locate_of_isLookable hlookable, hfollow]
    rfl
  · show _ ≠ _
    rw [Spot.place, FileTree.follow_taken hfollow]
    simp

end Again

/-! ## Replacing it -/

/-- Where the directory of the path is there, a file that can be replaced is replaced. -/
theorem run_replace_of_replacedAt {Fault : Type} (unusable : FileFault → Fault)
    (h : ReplacedAt t path mode temporary spot) (hrooted : t.IsRooted)
    (hdirectory : t.isDirectory path.parent = true) (bytes : Bytes) :
    (replace unusable path (.ok bytes)).run.run t =
      (.ok (), t.put spot.place (.file bytes mode)) := by
  obtain ⟨directory, name, hlocate, htemporary⟩ := h.room.leads
  have hmake : (makeTemporary path mode).run.run t =
      (.ok (temporaryPath t path, temporary), t.put temporary (.file [] mode)) := by
    rw [makeTemporary, Filing.run_bind, Filing.run_get]
    dsimp only
    rw [hlocate, htemporary]
    rfl
  have hrename (named : Path) : (rename temporary named path (.file bytes mode)).run.run
      (t.put temporary (.file [] mode)) = (.ok (), t.put spot.place (.file bytes mode)) := by
    have habove : FileTree.isAbove path.name = false := by
      have hplain := h.isPlain_name hrooted
      simp only [FileTree.isPlain, Bool.and_eq_true, Bool.not_eq_true'] at hplain
      exact hplain.1.2
    have hnames : path.names.isEmpty = false := by simpa using h.names_ne_nil
    have hleads := h.leads
    have hno := h.noDirectory
    have hfollow := (FileTree.locate_eq_ok hleads).2
    have herase := FileTree.erase_put h.room.ne_nil h.room.nothing (.file [] mode)
    rw [rename, Filing.run_bind, Filing.run_get]
    dsimp only
    rw [hnames, habove, hleads]
    cases spot with
    | taken place entry =>
      cases entry with
      | directory => exact absurd (FileTree.follow_taken hfollow) hno
      | file => exact congrArg (fun u => (Except.ok (), FileTree.put u place _)) herase
      | link => exact congrArg (fun u => (Except.ok (), FileTree.put u place _)) herase
    | vacant place name => exact congrArg (fun u => (Except.ok (), FileTree.put u _ _)) herase
  simp only [replace, Filing.run_bind, Filing.run_adapt, Filing.run_get, Filing.run_lift,
    Filing.run_tryCatch, run_ensureDirectory_of_isDirectory hdirectory, h.permissions, hmake,
    hrename, Except.mapError]

/-- **What was written is written once more without any change.** -/
theorem ReplacedAt.again {Fault : Type} (unusable : FileFault → Fault) {bytes : Bytes}
    (h : ReplacedAt t path mode temporary spot) (hrooted : t.IsRooted)
    (hdirectory : (t.put spot.place (.file bytes mode)).isDirectory path.parent = true)
    (hhome : temporaryHome path = path.parent) :
    (replace unusable path (.ok bytes)).run.run (t.put spot.place (.file bytes mode)) =
      (.ok (), t.put spot.place (.file bytes mode)) := by
  have hagain := run_replace_of_replacedAt unusable (h.replacedAt_again hrooted hdirectory hhome)
    (h.isRooted_put bytes hrooted) hdirectory bytes
  rwa [Spot.place, FileTree.put_put] at hagain

end RouteAtlas.Files
