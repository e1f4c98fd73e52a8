import RouteAtlas.Proofs.Files.Outcome
import RouteAtlas.Proofs.Store.Saves

/-!
# Documents that were written

Writing a document is all or nothing: `write_all_or_nothing`. Which of the two it is depends on the
document, which has to be encodable and must not be too deep, and on the path. The tree is known in
both cases. A fault is one of the file, unless the document is too deep.

As far as the path is concerned, it does not matter which document is written: either none can be,
or all of them can, and then each one is read back from the path as it was (`read_of_write`).
-/

namespace RouteAtlas

namespace Json

end Json

namespace DocumentFile

/-- In a tree that holds nothing, an empty object can be written. -/
theorem isOk_write_of_nothing :
    ((write Store.layout Store.rootStore.path (.obj [])).run.run {}).1.isOk = true := by
  rw [Store.rootStore_path]
  cbv

/-- A file that was written can be out of reach of its path, when it took the place of a link in its
own way. -/
theorem write_selfLinkedTree :
    ∃ u, (write Store.layout Store.rootStore.path (.obj [])).run.run Store.selfLinkedTree =
        (.ok (), u) ∧
      u.status Store.rootStore.path =
        .error { reason := .notDirectory, path := Store.rootStore.path } := by
  obtain ⟨bytes, hbytes⟩ : ∃ bytes, bytesOf Store.layout (.obj []) = .ok bytes := by
    have hencodable : Json.isEncodable (.obj []) = true := rfl
    obtain ⟨bytes, hbytes, -⟩ := bytesOf_eq_ok Store.layout hencodable rfl
    exact ⟨bytes, hbytes⟩
  refine ⟨Store.selfLinkedTree.put ["index.json".toList]
    (.file bytes (Files.directoryMode Store.selfLinkedTree)), ?_, ?_⟩
  · rw [write, hbytes, Store.rootStore_path]
    cbv
  · rw [Store.rootStore_path]
    cbv

/-- **What was written is read back.** Whether anything can be written to a path depends on the tree
alone: if not, every document fails there with one and the same fault of the files. If it can, then
every document without floating-point numbers is written with any indentation, and it is read back
from the path exactly, the keys of its objects in their order. There has to be a way still to the
directory of the path, and there is one unless some link bears the last name of the path. -/
theorem read_of_write {t : FileTree} (hrooted : t.IsRooted) (path : Path) :
    (∃ problem, ∀ layout value, Json.isEncodable value = true →
        Json.isShallow Json.nestingLimit value = true →
        (write layout path value).run.run t =
          (.error (.files problem), Files.withDirectory t path.parent)) ∨
      ∀ (indent : Nat) (value : Json), Json.isEncodable value = true →
        Json.isExact Json.nestingLimit value = true →
        ∃ u, (write { indent := some indent } path value).run.run t = (.ok (), u) ∧
          (u.isDirectory path.parent = true → read u path = .ok value) ∧
          ((∀ link target, t.get? link = some (.link target) → link.getLast? ≠ some path.name) →
            u.isDirectory path.parent = true) := by
  have hmade : (Files.withDirectory t path.parent).IsRooted :=
    Files.isRooted_withDirectory path.parent t hrooted
  have hnew := Files.onlyAncestorsNew_withDirectory hrooted path.parent
  rcases (Files.replace_alike WriteFault.files path t).1 with
    ⟨problem, hrun⟩ | ⟨mode, temporary, spot, hreplaced, hrun⟩
  · left
    refine ⟨problem, fun layout value hencodable hshallow => ?_⟩
    obtain ⟨bytes, hbytes, -⟩ := bytesOf_eq_ok layout hencodable hshallow
    rw [write, hbytes]
    exact hrun bytes
  · right
    intro indent value hencodable hexact
    have hshallow := Json.isShallow_of_isExact hexact
    obtain ⟨bytes, hbytes, -⟩ := bytesOf_eq_ok { indent := some indent } hencodable hshallow
    have hfile := hreplaced.isReplacement hmade hnew (Files.umask_withDirectory _ t) bytes
    refine ⟨_, by rw [write, hbytes]; exact hrun bytes, ?_, hfile.reachable⟩
    intro hdirectory
    rw [read_of_status (hfile.reached hdirectory)]
    exact ofBytes_bytesOf (Json.Layout.isReadable_indented (some indent)) hexact hbytes path

/-- A document with characters that have to be escaped, or that end lines elsewhere. -/
def escapedDocument : Json :=
  .fields
    [("b", .arr [.null, .bool true, .int (-7), .string "\"\\/\n\r\t\x00\x7f\u2028é"]),
     ("a", .fields []), ("", .arr [])]

/-- In a tree that holds nothing, it is read back. -/
theorem read_of_write_of_nothing :
    FileTree.IsRooted {} ∧ Json.isEncodable escapedDocument = true ∧
      Json.isExact Json.nestingLimit escapedDocument = true ∧
      ∃ u, (write { indent := some 0 } Store.rootStore.path escapedDocument).run.run {} =
          (.ok (), u) ∧
        read u Store.rootStore.path = .ok escapedDocument := by
  have hencodable : Json.isEncodable escapedDocument = true := by decide
  have hexact : Json.isExact Json.nestingLimit escapedDocument = true := by decide
  refine ⟨FileTree.isRooted_empty, hencodable, hexact, ?_⟩
  rcases read_of_write FileTree.isRooted_empty Store.rootStore.path with ⟨problem, hall⟩ | hall
  · have hrefused := hall Store.layout (.obj []) rfl rfl
    have hwritten := isOk_write_of_nothing
    rw [hrefused] at hwritten
    cases hwritten
  · obtain ⟨u, hrun, hread, hway⟩ := hall 0 escapedDocument hencodable hexact
    refine ⟨u, hrun, hread (hway fun link target hlink => ?_)⟩
    by_cases hroot : link = []
    · rw [hroot, FileTree.get?_nil] at hlink
      cases hlink
    · rw [FileTree.get?_empty hroot] at hlink
      cases hlink

/-- Behind a link that was replaced on its own way, the document is not found. -/
theorem read_of_write_selfLinked :
    Json.isEncodable (.obj []) = true ∧ Json.isExact Json.nestingLimit (.obj []) = true ∧
      ∃ u, (write { indent := some 2 } Store.rootStore.path (.obj [])).run.run
          Store.selfLinkedTree = (.ok (), u) ∧
        ∃ fault, read u Store.rootStore.path = .error fault := by
  obtain ⟨u, hrun, hstatus⟩ := write_selfLinkedTree
  refine ⟨rfl, by decide, u, hrun, .absent Store.rootStore.path, ?_⟩
  rw [read, FileTree.status?, hstatus]
  rfl

end DocumentFile

end RouteAtlas
