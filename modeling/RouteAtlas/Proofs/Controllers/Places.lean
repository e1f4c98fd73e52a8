import RouteAtlas.Proofs.Controllers.Inheritance
import RouteAtlas.Proofs.Controllers.Routes

/-!
# Where declarations are

A declaration is on the line of its first attribute, which may be far above the line that declares
it. Still no two classes of a source are on one line, nor are two methods of a class: their lines
ascend, and all of them are lines of the source (`AreInOrder`).

What carries this through a scan is the line that the next declaration would be on, `startLine`:
that of the attributes that wait, or else the line to be looked at. It is behind every line on which
something has been declared (`ScanState.IsInOrder`). Attributes begin to wait on the line that is
looked at and stay where they wait, and a declaration ends the waiting, so that the next one comes
later.

Files and lines therefore tell the declarations of distinct files apart, and the rule that of
several declarations at one place only the first counts never applies to them
(`declarations_in_order`).
-/

namespace RouteAtlas.Controllers

/-! ## Classes and methods -/

/-- The line of a class and those of its methods are among the first `count` ones, and those of its
methods ascend. -/
structure ClassDecl.IsInOrder (c : ClassDecl) (count : Nat) : Prop where
  line : 1 ≤ c.line ∧ c.line ≤ count
  ascend : c.methods.Pairwise (·.line < ·.line)
  methodLine : ∀ method ∈ c.methods, 1 ≤ method.line ∧ method.line ≤ count

/-- The lines of classes ascend, as do those of the methods of each of them, among the first `count`
lines. -/
structure AreInOrder (classes : List ClassDecl) (count : Nat) : Prop where
  ascend : classes.Pairwise (·.line < ·.line)
  each : ∀ c ∈ classes, c.IsInOrder count

section Declarations

variable {classes : List ClassDecl} {c : ClassDecl} {method : Action} {count more : Nat}

/-- Without classes there is nothing to be in order. -/
theorem areInOrder_nil (count : Nat) : AreInOrder [] count :=
  ⟨.nil, List.forall_mem_nil _⟩

theorem ClassDecl.IsInOrder.mono (h : c.IsInOrder count) (hmore : count ≤ more) :
    c.IsInOrder more where
  line := ⟨h.line.1, h.line.2.trans hmore⟩
  ascend := h.ascend
  methodLine method hmethod :=
    ⟨(h.methodLine method hmethod).1, (h.methodLine method hmethod).2.trans hmore⟩

theorem AreInOrder.mono (h : AreInOrder classes count) (hmore : count ≤ more) :
    AreInOrder classes more :=
  ⟨h.ascend, fun c hc => (h.each c hc).mono hmore⟩

/-- What ascends goes on doing so with a later line. -/
theorem pairwise_line_concat {α : Type} {line : α → Nat} {l : List α} {a : α}
    (h : l.Pairwise (line · < line ·)) (hlast : ∀ b ∈ l, line b < line a) :
    (l ++ [a]).Pairwise (line · < line ·) := by
  rw [List.pairwise_append]
  refine ⟨h, List.pairwise_singleton _ a, fun b hb last hmem => ?_⟩
  rw [List.mem_singleton.mp hmem]
  exact hlast b hb

/-- One more class, on a later line. -/
theorem AreInOrder.concat (h : AreInOrder classes count) (hline : count < c.line)
    (hmethods : c.methods = []) : AreInOrder (classes ++ [c]) c.line where
  ascend := pairwise_line_concat h.ascend fun other hother =>
    (h.each other hother).line.2.trans_lt hline
  each := by
    rw [List.forall_mem_append, List.forall_mem_singleton]
    refine ⟨(h.mono hline.le).each, ⟨by omega, le_rfl⟩, ?_, ?_⟩
    · rw [hmethods]
      exact .nil
    · rw [hmethods]
      exact List.forall_mem_nil _

/-- One more method, on a later line. -/
theorem ClassDecl.IsInOrder.withMethod (h : c.IsInOrder count) (hline : count < method.line) :
    (c.withMethod method).IsInOrder method.line where
  line := (h.mono hline.le).line
  ascend := pairwise_line_concat h.ascend fun other hother =>
    (h.methodLine other hother).2.trans_lt hline
  methodLine := by
    show ∀ other ∈ c.methods ++ [method], _
    rw [List.forall_mem_append, List.forall_mem_singleton]
    exact ⟨(h.mono hline.le).methodLine, by omega, le_rfl⟩

/-- One more method of a class among others, on a later line. -/
theorem AreInOrder.modify (h : AreInOrder classes count) (hline : count < method.line)
    (place : Nat) : AreInOrder (classes.modify place (·.withMethod method)) method.line where
  ascend := by
    have hlines : (classes.modify place (·.withMethod method)).map ClassDecl.line =
        classes.map ClassDecl.line := by
      refine List.ext_getElem? fun i => ?_
      rw [List.getElem?_map, List.getElem?_map, List.getElem?_modify]
      cases classes[i]? with
      | none => rfl
      | some other =>
        by_cases hplace : place = i
        · simp [hplace, ClassDecl.withMethod]
        · simp [hplace]
    rw [← List.pairwise_map, hlines, List.pairwise_map]
    exact h.ascend
  each := by
    refine forall_mem_modify h.each (fun c hc => ?_) fun c hc => ?_
    · exact hc.mono hline.le
    · exact hc.withMethod hline

end Declarations

/-! ## Scans -/

namespace ScanState

/-- After `count` lines, something has been declared only on lines in front of the one that the next
declaration would be on, and that one is not behind the next line. -/
structure IsInOrder (s : ScanState) (count : Nat) : Prop where
  declared : ∃ last, AreInOrder s.classes last ∧ last < s.startLine (count + 1)
  start : s.startLine (count + 1) ≤ count + 1

variable {s : ScanState} {count : Nat}

/-- From one line to the next, declarations go on starting where they did, or one line later. -/
theorem startLine_succ (s : ScanState) (line : Nat) :
    s.startLine line ≤ s.startLine (line + 1) ∧ s.startLine (line + 1) ≤ s.startLine line + 1 := by
  unfold startLine
  cases s.waiting with
  | none => exact ⟨Nat.le_succ line, le_rfl⟩
  | some w => exact ⟨le_rfl, Nat.le_succ w.line⟩

/-- Attributes wait where others already wait, or on the line that they stand on. -/
theorem startLine_addAttributes (s : ScanState) (line : Nat) (attributes : List Attribute) :
    (s.addAttributes line attributes).startLine line = s.startLine line := by
  unfold addAttributes startLine
  split
  · rfl
  · split
    next hnone =>
      rw [hnone]
      rfl
    next w hsome =>
      rw [hsome]
      rfl

theorem classes_addAttributes (s : ScanState) (line : Nat) (attributes : List Attribute) :
    (s.addAttributes line attributes).classes = s.classes := by
  unfold addAttributes
  split
  · rfl
  · split
    · rfl
    · rfl

theorem IsInOrder.addAttributes (h : s.IsInOrder count) (attributes : List Attribute) :
    (s.addAttributes (count + 1) attributes).IsInOrder count where
  declared := by
    rw [classes_addAttributes, startLine_addAttributes]
    exact h.declared
  start := by
    rw [startLine_addAttributes]
    exact h.start

/-- What a line declares is on the line where declarations start. -/
theorem areInOrder_addClass {last line : Nat} (h : AreInOrder s.classes last)
    (hlast : last < s.startLine line) (file : Path) (head : ClassHead) :
    AreInOrder (s.addClass file line head).classes (s.startLine line) :=
  h.concat (c := ⟨head.name, file, s.startLine line, head.bases, s.attributes, []⟩) hlast rfl

/-- A method comes behind those that its class had. -/
theorem areInOrder_addMethod {last line : Nat} (h : AreInOrder s.classes last)
    (hlast : last < s.startLine line) (head : MethodHead) :
    AreInOrder (s.addMethod line head).classes (s.startLine line) := by
  unfold addMethod
  split
  next body _ _ =>
    split
    · let method : Action :=
        ⟨head.name, s.startLine line, head.modifiers.contains "public".toList, s.attributes⟩
      have hmethod : last < method.line := hlast
      exact h.modify hmethod body.place
    · exact h.mono hlast.le
  next => exact h.mono hlast.le

/-- A line that declares nothing. -/
theorem IsInOrder.skip (h : s.IsInOrder count) : s.IsInOrder (count + 1) := by
  obtain ⟨last, hclasses, hlast⟩ := h.declared
  obtain ⟨hlater, hone⟩ := s.startLine_succ (count + 1)
  exact ⟨⟨last, hclasses, hlast.trans_le hlater⟩, hone.trans (Nat.succ_le_succ h.start)⟩

/-- **The code of a line** declares on the line where attributes wait, or on its own, and the next
declaration comes later. -/
theorem IsInOrder.addCode (h : s.IsInOrder count) (file : Path) (code : Text) :
    (s.addCode file (count + 1) code).IsInOrder (count + 1) := by
  unfold ScanState.addCode
  split
  · exact h.skip
  · -- nothing waits any more, so the next declaration is on a later line
    obtain ⟨last, hclasses, hlast⟩ := h.declared
    refine ⟨⟨s.startLine (count + 1), ?_, Nat.lt_succ_of_le h.start⟩, le_rfl⟩
    dsimp only
    split
    next head _ => exact areInOrder_addClass hclasses hlast file head
    next =>
      split
      next head _ => exact areInOrder_addMethod hclasses hlast head
      next => exact hclasses.mono hlast.le

/-- Braces declare nothing, and nothing waits for them. -/
theorem foldl_brace_eq (s : ScanState) (code : Text) :
    (code.foldl brace s).classes = s.classes ∧ (code.foldl brace s).waiting = s.waiting := by
  induction code generalizing s with
  | nil => exact ⟨rfl, rfl⟩
  | cons c code ih =>
    have hbrace : (s.brace c).classes = s.classes ∧ (s.brace c).waiting = s.waiting := by
      unfold brace
      split
      · exact ⟨rfl, rfl⟩
      · split
        · exact ⟨rfl, rfl⟩
        · exact ⟨rfl, rfl⟩
    rw [List.foldl_cons, (ih _).1, (ih _).2]
    exact hbrace

/-- Only classes and what waits matter. -/
theorem IsInOrder.congr {other : ScanState} (h : s.IsInOrder count)
    (hclasses : other.classes = s.classes) (hwaiting : other.waiting = s.waiting) :
    other.IsInOrder count := by
  have hstart : other.startLine (count + 1) = s.startLine (count + 1) := by
    rw [startLine, startLine, hwaiting]
  refine ⟨?_, hstart ▸ h.start⟩
  rw [hclasses, hstart]
  exact h.declared

/-- What a line does keeps declarations in order. -/
theorem IsInOrder.addLine (h : s.IsInOrder count) (file : Path) (text : Text) :
    (s.addLine file (count + 1) text).IsInOrder (count + 1) := by
  unfold ScanState.addLine
  dsimp only
  refine IsInOrder.congr ?_ (foldl_brace_eq _ _).1 (foldl_brace_eq _ _).2
  have hviews : IsInOrder
      { s with
        inComment := (withoutComments text s.inComment).2
        inCodeComment := (bareCode text s.inCodeComment).2 } count := h.congr rfl rfl
  unfold ScanState.declarations
  split
  · exact hviews.skip
  · exact (hviews.addAttributes _).addCode file _

/-- So does what all lines do. -/
theorem IsInOrder.after (h : s.IsInOrder count) (file : Path) (lines : List Text) :
    (s.after file (count + 1) lines).IsInOrder (count + lines.length) := by
  induction lines generalizing s count with
  | nil => exact h
  | cons text lines ih =>
    rw [after_cons, List.length_cons, Nat.add_comm lines.length, ← Nat.add_assoc]
    exact ih (h.addLine file text)

end ScanState

/-- The classes of a source are in order among its lines. -/
theorem areInOrder_classesOf (source : Text) (file : Path) :
    AreInOrder (classesOf source file) (Text.lines source).length := by
  have hempty : ScanState.IsInOrder {} 0 := ⟨⟨0, areInOrder_nil 0, Nat.one_pos⟩, le_rfl⟩
  have hscan := hempty.after file (Text.lines source)
  obtain ⟨last, hclasses, hlast⟩ := hscan.declared
  refine AreInOrder.mono hclasses ?_
  have := hlast.trans_le hscan.start
  omega

/-! ## Several files -/

/-- The classes of sources, each of which is in a file. -/
def classesOfAll (sources : List (Path × Text)) : List ClassDecl :=
  sources.flatMap fun (file, source) => classesOf source file

/-- No two classes are at one place if each source is in a file of its own. -/
theorem nodup_place_classesOfAll {sources : List (Path × Text)}
    (hfiles : (sources.map Prod.fst).Nodup) :
    ((classesOfAll sources).map ClassDecl.place).Nodup := by
  rw [classesOfAll, List.map_flatMap, List.nodup_flatMap]
  constructor
  · intro (file, source) _
    refine List.pairwise_map.mpr ((areInOrder_classesOf source file).ascend.imp ?_)
    intro c other hlines hplace
    exact hlines.ne (congrArg Prod.snd hplace)
  · refine (List.pairwise_map.mp hfiles).imp ?_
    intro (file, source) (otherFile, otherSource) hne place hplace hother
    obtain ⟨c, hc, rfl⟩ := List.mem_map.mp hplace
    obtain ⟨other, hmem, heq⟩ := List.mem_map.mp hother
    have hfile : other.file = c.file := congrArg Prod.fst heq
    rw [(isSound_of_mem_classesOf hc).file_eq, (isSound_of_mem_classesOf hmem).file_eq] at hfile
    exact hne hfile.symm

/-- **Declarations are in order.** In every source, well-formed or not, the lines of the classes
ascend strictly, and so do those of the methods of each class, and all of them are lines of the
source. So no controller among the classes of distinct files is passed over for being at the place
of another one. -/
theorem declarations_in_order (sources : List (Path × Text))
    (hfiles : (sources.map Prod.fst).Nodup) :
    (∀ source ∈ sources,
      AreInOrder (classesOf source.2 source.1) (Text.lines source.2).length) ∧
      findControllers (classesOfAll sources) =
        (classesOfAll sources).filter (·.isController (classesOfAll sources)) := by
  have hplaces := nodup_place_classesOfAll hfiles
  exact ⟨fun source _ => areInOrder_classesOf source.2 source.1, findControllers_eq_filter hplaces⟩

/-- A class whose first attribute waits over an empty line and a comment, with a method whose
attribute has a line of its own. -/
def waitingSource : Text :=
  Text.joinWith ['\n']
    ["[ApiController]".toList, [], "// of pets".toList, "[Route(\"pets\")] public class Pets".toList,
      ['{'], "  [HttpGet]".toList, "  public void All() \x7b \x7d".toList, ['}']]

/-- The same source in two files. -/
def twoFiles : List (Path × Text) :=
  [(⟨.relative, ["A.cs".toList]⟩, waitingSource), (⟨.relative, ["B.cs".toList]⟩, waitingSource)]

/-- Both classes are on the first line of their files, and both are found. -/
theorem declarations_in_order_waiting :
    ((twoFiles.map Prod.fst).Nodup ∧ (classesOfAll twoFiles).map ClassDecl.line = [1, 1]) ∧
      AreInOrder (classesOf waitingSource ⟨.relative, ["B.cs".toList]⟩) 8 ∧
      findControllers (classesOfAll twoFiles) = classesOfAll twoFiles := by
  have hfiles : (twoFiles.map Prod.fst).Nodup := by decide
  obtain ⟨hinOrder, hfound⟩ := declarations_in_order twoFiles hfiles
  refine ⟨⟨hfiles, by decide +kernel⟩, ?_, ?_⟩
  · exact hinOrder (⟨.relative, ["B.cs".toList]⟩, waitingSource) (by simp [twoFiles])
  · rw [hfound, List.filter_eq_self]
    decide +kernel

end RouteAtlas.Controllers
