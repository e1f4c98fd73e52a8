import RouteAtlas.Proofs.Discovery.Session
import RouteAtlas.Proofs.Discovery.Unseen
import RouteAtlas.Proofs.Files.Again

/-!
# Discovering once more

To a repository with standard settings, a save adds at most the directory of the index, which has a
name that no walk enters, and the file in it, which has an ending that no backend looks for. So no
discovery sees that an index was saved (`sameBelow_of_save`), unless it is led there by a link or
can look up no more what it looked up before, and what is discovered once more is the same index. As
long as there is a way to its directory, it is saved once more, and the tree stays exactly as it is
(`save_again`, `discoverAndSave_again`).

Both provisos are about links, and both are asked of the tree after the save: links that are taken
for sources lead where they led before, and whatever a walk meets can be looked up. That a walk of
the tree before could look up everything need not be asked, since the discovery has come to an index
(`Backend.isWalkable_of_discover`).
-/

namespace RouteAtlas

/-- Without double dots nothing is taken back. -/
theorem Path.collapse_eq_append {names : List Text} (h : ∀ name ∈ names, name ≠ ['.', '.'])
    (before : List Text) : collapse before names = before.reverse ++ names := by
  induction names generalizing before with
  | nil => rw [collapse, List.append_nil]
  | cons name rest ih =>
    rw [List.forall_mem_cons] at h
    rw [collapse, if_neg h.1, ih h.2, List.reverse_cons, List.append_assoc, List.singleton_append]

/-- An entry under a name that can be looked up keeps a tree one of such names. -/
theorem FileTree.HasFileNames.put {t : FileTree} (h : t.HasFileNames) {directory : Place}
    {name : Text} (hdirectory : t.get? directory = some .directory)
    (hplain : isPlain name = true) (hstorable : Path.isStorable name = true) (entry : Entry) :
    (t.put (directory ++ [name]) entry).HasFileNames := by
  have hnames : ∀ place found, (t.put (directory ++ [name]) entry).get? place = some found →
      ∀ other ∈ place, isPlain other = true ∧ Path.isStorable other = true := by
    intro place found hget other hother
    rw [get?_put_of_ne_nil t (Files.concat_ne_nil directory name)] at hget
    split at hget
    next hplace =>
      rw [hplace, List.mem_append, List.mem_singleton] at hother
      rcases hother with hfront | rfl
      · exact ⟨h.plain _ _ hdirectory other hfront, h.storable _ _ hdirectory other hfront⟩
      · exact ⟨hplain, hstorable⟩
    next => exact ⟨h.plain place found hget other hother, h.storable place found hget other hother⟩
  exact ⟨fun place found hget other hother => (hnames place found hget other hother).1,
    fun place found hget other hother => (hnames place found hget other hother).2⟩

namespace Store

/-! ## A save and a walk -/

variable {t u : FileTree} {place : Place} {i : Index} {b : Backend} {time : Text}
  {messages : List Text}

section Repository

variable (hrooted : t.IsRooted) (hnames : t.HasFileNames)
  (hroot : t.status ⟨.slash, place⟩ = .ok (place, .directory))

include hrooted hroot

/-- At most the directory of the index is made. -/
theorem withDirectory_standard :
    Files.withDirectory t (standard ⟨.slash, place⟩).path.parent = t ∨
      Files.withDirectory t (standard ⟨.slash, place⟩).path.parent =
        t.put (place ++ [".apimap".toList]) .directory := by
  have hparent := standard_path_parent ⟨.slash, place⟩
  have hhouse : t.isDirectory (standard ⟨.slash, place⟩).path.parent.parent = true := by
    rw [standard_path_parent_parent, FileTree.isDirectory, hroot]
    rfl
  have hsome : (standard ⟨.slash, place⟩).path.parent.names ≠ [] := by
    rw [hparent]
    exact Files.concat_ne_nil place _
  rcases Files.withDirectory_of_isDirectory_parent hrooted hsome hhouse with
    hsame | ⟨directory, name, hlocate, hmade⟩
  · exact .inl hsame
  · -- The path led nowhere, and the root is a directory, so the last name is what was missing.
    right
    have hfollow := (FileTree.locate_eq_ok hlocate).2
    rw [hparent] at hfollow
    obtain ⟨links, hon⟩ := FileTree.follow_append (FileTree.follow_of_status hroot)
    have hlast := hon .kept [".apimap".toList] (List.cons_ne_nil _ _)
    obtain ⟨-, hstands⟩ := FileTree.follow_singleton hrooted (hlast.symm.trans hfollow) (by
      show t.get? (directory ++ [name]) ≠ some .directory
      rw [(FileTree.follow_vacant hfollow).2]
      simp)
    have hstands : directory ++ [name] = place ++ [".apimap".toList] := hstands
    rw [hmade, hstands]

include hnames

omit hrooted in
/-- A temporary file is made in the directory of the index. -/
theorem temporaryHome_standard :
    Files.temporaryHome (standard ⟨.slash, place⟩).path = (standard ⟨.slash, place⟩).path.parent := by
  -- No name is two dots, so that nothing is taken back.
  have hdots : ∀ name ∈ place ++ [".apimap".toList], name ≠ ['.', '.'] := by
    intro name hname
    rw [List.mem_append, List.mem_singleton] at hname
    rcases hname with hfront | rfl
    · have hget := FileTree.follow_taken (FileTree.follow_of_status hroot)
      have habove := (FileTree.not_dots_of_isPlain (hnames.plain place _ hget name hfront)).2
      rintro rfl
      cases habove
    · decide
  rw [Files.temporaryHome, standard_path_parent, Path.collapse_eq_append hdots]
  rw [standard_path]
  rfl

variable (hsave : ((standard ⟨.slash, place⟩).save i).run.run t = (.ok (), u))

include hsave

/-- **An index that was saved is saved once more without any change**, as long as there is a way to
its directory. -/
theorem save_again (hdirectory : u.isDirectory (standard ⟨.slash, place⟩).path.parent = true) :
    ((standard ⟨.slash, place⟩).save i).run.run u = (.ok (), u) := by
  obtain ⟨bytes, mode, temporary, spot, hbytes, hreplaced, rfl⟩ := exists_replacedAt_of_save hsave
  have hagain := hreplaced.again DocumentFile.WriteFault.files
    (Files.isRooted_withDirectory _ t hrooted) hdirectory (temporaryHome_standard hnames hroot)
  rw [save, Filing.run_adapt, DocumentFile.write, hbytes, hagain]
  rfl

omit hnames in
/-- Where a walk looks, nothing is new after an index was saved. -/
theorem differUnseen_of_save {endings : List Text} (hjson : ".json".toList ∉ endings) :
    Source.DifferUnseen t u ⟨.slash, place⟩ endings := by
  have hget := FileTree.follow_taken (FileTree.follow_of_status hroot)
  have hmade := Files.isRooted_withDirectory (standard ⟨.slash, place⟩).path.parent t hrooted
  have hnew := Files.onlyAncestorsNew_withDirectory hrooted (standard ⟨.slash, place⟩).path.parent
  obtain ⟨bytes, mode, temporary, spot, -, hreplaced, rfl⟩ := exists_replacedAt_of_save hsave
  obtain ⟨directory, -, hstands⟩ := hreplaced.stands hmade
  rw [standard_name] at hstands
  have hno := (hreplaced.isReplacement hmade hnew (Files.umask_withDirectory _ t) bytes).noDirectory
  intro names
  show FileTree.get? _ (place ++ names) = t.get? (place ++ names) ∨ _ ∨
    t.get? (place ++ names) ≠ _ ∧ FileTree.get? _ (place ++ names) ≠ _ ∧ _
  rw [FileTree.get?_put_of_ne_nil _ hreplaced.place_ne_nil]
  by_cases hspot : place ++ names = spot.place
  · -- The file stands there, and its ending is not looked for.
    have hsome : names ≠ [] := by
      rintro rfl
      rw [List.append_nil] at hspot
      exact hno (hspot ▸ hget)
    have hlast : names.getLastD [] = "index.json".toList := by
      have hwhole := congrArg List.getLast? (hspot.trans hstands)
      rw [List.getLast?_append_of_ne_nil _ hsome, List.getLast?_concat] at hwhole
      rw [List.getLastD_eq_getLast?, hwhole]
      rfl
    rw [if_pos hspot, hlast]
    exact .inr (.inr ⟨hspot ▸ hno, by simp, hjson⟩)
  · rw [if_neg hspot]
    rcases withDirectory_standard hrooted hroot with hsame | hdirectory
    · rw [hsame]
      exact .inl rfl
    · rw [hdirectory, FileTree.get?_put_of_ne_nil t (Files.concat_ne_nil place _)]
      by_cases hnew : place ++ names = place ++ [".apimap".toList]
      · rw [List.append_cancel_left hnew]
        exact .inr (.inl ⟨_, List.mem_cons_self, by decide⟩)
      · rw [if_neg hnew]
        exact .inl rfl

/-- In the tree with the saved index, the root is still found under its own path. -/
theorem status_of_save : u.IsRooted ∧ u.HasFileNames ∧
    u.status ⟨.slash, place⟩ = .ok (place, .directory) := by
  have hget := FileTree.follow_taken (FileTree.follow_of_status hroot)
  have hmade := Files.isRooted_withDirectory (standard ⟨.slash, place⟩).path.parent t hrooted
  have hmadeNames :
      (Files.withDirectory t (standard ⟨.slash, place⟩).path.parent).HasFileNames := by
    rcases withDirectory_standard hrooted hroot with hsame | hdirectory
    · rw [hsame]
      exact hnames
    · rw [hdirectory]
      exact hnames.put hget (by decide) (by decide) _
  have hafter : u.IsRooted ∧ u.HasFileNames := by
    obtain ⟨bytes, mode, temporary, spot, -, hreplaced, rfl⟩ := exists_replacedAt_of_save hsave
    obtain ⟨directory, hstatus, hstands⟩ := hreplaced.stands hmade
    refine ⟨hreplaced.isRooted_put bytes hmade, ?_⟩
    have hstorable : Path.isStorable (standard ⟨.slash, place⟩).path.name = true := by
      rw [standard_name]
      decide
    rw [hstands]
    exact hmadeNames.put (FileTree.follow_taken (FileTree.follow_of_status hstatus))
      (hreplaced.isPlain_name hmade) hstorable _
  refine ⟨hafter.1, hafter.2, ?_⟩
  -- The root itself is no place where anything is new.
  have hget' : u.get? place = some .directory := by
    have hdiffer : Source.DifferUnseen t u ⟨.slash, place⟩ [] :=
      differUnseen_of_save hrooted hroot hsave (by simp)
    have hsame := hdiffer []
    rw [List.append_nil] at hsame
    rcases hsame with hsame | ⟨name, hname, -⟩ | ⟨hno, -⟩
    · exact hsame.trans hget
    · cases hname
    · exact absurd hget hno
  have hdirect := hafter.1.isDirect (hafter.2.plain _ _ hget') hget' (by simp)
  exact hdirect.status_eq hafter.1 hget' (FileTree.isLookable_of_status hroot)

/-- **No discovery sees that an index was saved**, unless it is led there by a link or can look up
no more what it meets. -/
theorem sameBelow_of_save {endings : List Text} (hwalkable : t.IsWalkable ⟨.slash, place⟩)
    (hending : [] ∉ endings) (hjson : ".json".toList ∉ endings)
    (hlinks : Source.LinksAgree t u ⟨.slash, place⟩ endings)
    (hlooked : ∀ names, Source.Meets u Source.ignoredDirectories place names →
      ∃ found, u.status? (Path.below ⟨.slash, place⟩ names) = .ok found) :
    Source.SameBelow t u ⟨.slash, place⟩ endings := by
  obtain ⟨hrooted', hnames', hroot'⟩ := status_of_save hrooted hnames hroot hsave
  exact ⟨hwalkable, ⟨hrooted', hnames', hroot', hlooked⟩, rfl, hending,
    differUnseen_of_save hrooted hroot hsave hjson, hlinks⟩

end Repository

/-- No backend looks for the ending of an index. -/
theorem not_mem_endings (scanner : Scanner) :
    [] ∉ scanner.endings ∧ ".json".toList ∉ scanner.endings := by
  cases scanner <;> decide

/-! ## The same discovery -/

section Discovered

variable (hscanner : b.scanner ≠ .idle) (hrooted : t.IsRooted) (hnames : t.HasFileNames)
  (hroot : t.status ⟨.slash, place⟩ = .ok (place, .directory))
  (hdiscovered : ((standard ⟨.slash, place⟩).discoverAndSave b time).run t =
    (⟨messages, .ok i⟩, u))
  (hlinks : Source.LinksAgree t u ⟨.slash, place⟩ b.scanner.endings)
  (hlooked : ∀ names, Source.Meets u Source.ignoredDirectories place names →
    ∃ found, u.status? (Path.below ⟨.slash, place⟩ names) = .ok found)

include hscanner hrooted hnames hroot hdiscovered hlinks hlooked

/-- What is looked for is the same as before an index was discovered and saved. -/
theorem sameBelow_of_discovered : Source.SameBelow t u ⟨.slash, place⟩ b.scanner.endings := by
  obtain ⟨-, hsave⟩ := discoverAndSave_returned (i := i) (by rw [hdiscovered])
  obtain ⟨_, hfound⟩ := discovered_of_returned (i := i) (by rw [hdiscovered])
  rw [hdiscovered] at hsave
  have hwalkable : t.IsWalkable ⟨.slash, place⟩ :=
    Backend.isWalkable_of_discover hscanner hrooted hnames hroot
      (FileTree.canonical_of_status hroot) (congrArg Prod.fst hfound)
  obtain ⟨hending, hjson⟩ := not_mem_endings b.scanner
  exact sameBelow_of_save hrooted hnames hroot hsave hwalkable hending hjson hlinks hlooked

/-- **A discovery is repeated exactly.** Once an index was discovered and saved, the same backend
discovers the same index at the same time, and it is saved without any change, as long as there is a
way to its directory, no link to a source leads to something else than before, and all that a walk
meets can be looked up. -/
theorem discoverAndSave_again
    (hdirectory : u.isDirectory (standard ⟨.slash, place⟩).path.parent = true) :
    ∃ messages', ((standard ⟨.slash, place⟩).discoverAndSave b time).run u =
      (⟨messages', .ok i⟩, u) := by
  have hsame := sameBelow_of_discovered hscanner hrooted hnames hroot hdiscovered hlinks hlooked
  obtain ⟨-, hsave⟩ := discoverAndSave_returned (i := i) (by rw [hdiscovered])
  obtain ⟨_, hfound⟩ := discovered_of_returned (i := i) (by rw [hdiscovered])
  rw [hdiscovered] at hsave
  have hagain := Backend.discover_of_sameBelow hsame (congrArg Prod.fst hfound)
  have hstore : (standard ⟨.slash, place⟩).root = ⟨.slash, place⟩ := rfl
  rw [run_discoverAndSave, hstore]
  rcases hrun : (b.discover u ⟨.slash, place⟩ time).resume none [] with ⟨result, messages'⟩
  rw [hrun] at hagain
  obtain rfl : result = .ok i := hagain
  dsimp only
  rw [save_again hrooted hnames hroot hsave hdirectory]
  exact ⟨messages', rfl⟩

end Discovered

end Store

end RouteAtlas
