import RouteAtlas.Controllers.Routes
import RouteAtlas.Proofs.Controllers.Outline
import RouteAtlas.Proofs.Index.Build

/-!
# Routes of scanned classes

Whatever a source holds, its classes lie in that source, and they and their methods have lines and
the methods have names: every line of a scan keeps that (`ScanState.IsSound.addLine`), and so the
scan does (`isSound_of_mem_classesOf`). The routes of such classes are sound, and their paths are
texts, so that an index can be built of them (`ClassDecl.IsSound.isSound_of_mem_routes`).

The lines of a scan are counted from 1, and a class or a method has the line where its attributes
begin, or its own. So the invariant speaks of what waits as well: attributes wait with a line from 1
on. A method gets its name from the search for what is called, which finds no name without
characters; the name of a class may be anything.
-/

namespace RouteAtlas.Controllers

/-! ## Names of methods -/

theorem ne_nil_of_calledName? {inWord : Bool} {s name : Text} (h : calledName? inWord s = some name) :
    name ≠ [] := by
  induction s generalizing inWord with
  | nil => cases h
  | cons c rest ih =>
    unfold calledName? at h
    dsimp only at h
    split at h
    · cases h
      exact List.cons_ne_nil _ _
    · split at h
      · exact ih h
      · cases h

theorem ne_nil_of_methodHeadFrom? {before : List Text} {rest : List (Text × Text)}
    {head : MethodHead} (h : methodHeadFrom? before rest = some head) : head.name ≠ [] := by
  induction rest generalizing before with
  | nil => cases h
  | cons row others ih =>
    obtain ⟨word, after⟩ := row
    unfold methodHeadFrom? at h
    rcases Option.or_eq_some_iff.mp h with hlater | ⟨-, hhere⟩
    · exact ih hlater
    · obtain ⟨name, hname, rfl⟩ := Option.map_eq_some_iff.mp hhere
      exact ne_nil_of_calledName? hname

/-- A method that is recognised has a name. -/
theorem MethodHead.name_ne_nil {line : Text} {head : MethodHead} (h : read? line = some head) :
    head.name ≠ [] :=
  ne_nil_of_methodHeadFrom? h

/-! ## Scans -/

/-- What follows of all elements as they are, and of each one that is changed, holds of all of them
after one is changed. -/
theorem forall_mem_modify {α : Type} {P Q : α → Prop} {f : α → α} {l : List α} {place : Nat}
    (h : ∀ a ∈ l, P a) (hkept : ∀ a, P a → Q a) (hf : ∀ a, P a → Q (f a)) :
    ∀ a ∈ l.modify place f, Q a := by
  intro a ha
  obtain ⟨i, hi⟩ := List.mem_iff_getElem?.mp ha
  rw [List.getElem?_modify] at hi
  obtain ⟨b, hb, rfl⟩ := Option.map_eq_some_iff.mp hi
  have hold := h b (List.mem_of_getElem? hb)
  split
  · exact hf b hold
  · exact hkept b hold

/-- A class lies in a file, and it and its methods have lines and names. -/
structure ClassDecl.IsSound (c : ClassDecl) (file : Path) : Prop where
  file_eq : c.file = file
  line_pos : 1 ≤ c.line
  methods : ∀ method ∈ c.methods, 1 ≤ method.line ∧ method.name ≠ []

namespace ScanState

/-- All classes found in a file are sound, and what waits has a line. -/
structure IsSound (s : ScanState) (file : Path) : Prop where
  classes : ∀ c ∈ s.classes, c.IsSound file
  waiting : ∀ w, s.waiting = some w → 1 ≤ w.line

variable {s : ScanState} {file : Path} {line : Nat}

theorem IsSound.brace (h : s.IsSound file) (c : Char) : (s.brace c).IsSound file := by
  unfold ScanState.brace
  split
  · exact ⟨h.classes, h.waiting⟩
  · split
    · exact ⟨h.classes, h.waiting⟩
    · exact h

theorem IsSound.foldl_brace (h : s.IsSound file) (code : Text) :
    (code.foldl ScanState.brace s).IsSound file := by
  induction code generalizing s with
  | nil => exact h
  | cons c code ih => exact ih (h.brace c)

/-- Attributes wait from this line on, or from an earlier one. -/
theorem IsSound.addAttributes (h : s.IsSound file) (hline : 1 ≤ line) (attributes : List Attribute) :
    (s.addAttributes line attributes).IsSound file := by
  unfold ScanState.addAttributes
  split
  · exact h
  · split
    next =>
      refine ⟨h.classes, fun w hw => ?_⟩
      cases hw
      exact hline
    next waiting hwaiting =>
      refine ⟨h.classes, fun w hw => ?_⟩
      cases hw
      exact h.waiting waiting hwaiting

/-- What begins with attributes begins where they do. -/
theorem IsSound.startLine_pos (h : s.IsSound file) (hline : 1 ≤ line) : 1 ≤ s.startLine line := by
  unfold startLine
  cases hwaiting : s.waiting with
  | none => exact hline
  | some w => exact h.waiting w hwaiting

/-- A class is added with the source that is scanned. -/
theorem IsSound.addClass (h : s.IsSound file) (hline : 1 ≤ line) (head : ClassHead) :
    (s.addClass file line head).IsSound file := by
  refine ⟨?_, h.waiting⟩
  show ∀ c ∈ s.classes ++ [_], c.IsSound file
  rw [List.forall_mem_append, List.forall_mem_singleton]
  exact ⟨h.classes, rfl, h.startLine_pos hline, fun method hmethod => by cases hmethod⟩

/-- A method is added to a class that was found, if any. -/
theorem IsSound.addMethod (h : s.IsSound file) (hline : 1 ≤ line) {head : MethodHead}
    (hname : head.name ≠ []) : (s.addMethod line head).IsSound file := by
  unfold ScanState.addMethod
  split
  · split
    · refine ⟨forall_mem_modify h.classes (fun _ hc => hc) fun c hc => ?_, h.waiting⟩
      refine ⟨hc.file_eq, hc.line_pos, ?_⟩
      show ∀ method ∈ c.methods ++ [_], 1 ≤ method.line ∧ method.name ≠ []
      rw [List.forall_mem_append, List.forall_mem_singleton]
      exact ⟨hc.methods, h.startLine_pos hline, hname⟩
    · exact h
  · exact h

/-- The code of a line declares a class or a method or neither. -/
theorem IsSound.addCode (h : s.IsSound file) (hline : 1 ≤ line) (code : Text) :
    (s.addCode file line code).IsSound file := by
  unfold ScanState.addCode
  split
  · exact h
  · refine ⟨?_, fun w hw => by cases hw⟩
    dsimp only
    split
    next head hhead => exact (h.addClass hline head).classes
    next =>
      split
      next head hhead => exact (h.addMethod hline (MethodHead.name_ne_nil hhead)).classes
      next => exact h.classes

/-- What a line does leaves all classes sound. -/
theorem IsSound.addLine (h : s.IsSound file) (hline : 1 ≤ line) (text : Text) :
    (s.addLine file line text).IsSound file := by
  unfold ScanState.addLine
  refine IsSound.foldl_brace ?_ _
  unfold ScanState.declarations
  split
  · exact ⟨h.classes, h.waiting⟩
  · refine IsSound.addCode (IsSound.addAttributes ?_ hline _) hline _
    exact ⟨h.classes, h.waiting⟩

/-- So does what all lines do. -/
theorem IsSound.after (h : s.IsSound file) (hline : 1 ≤ line) (lines : List Text) :
    (s.after file line lines).IsSound file := by
  induction lines generalizing s line with
  | nil => exact h
  | cons text lines ih =>
    rw [after_cons]
    exact ih (h.addLine hline text) (Nat.le_add_left 1 line)

end ScanState

/-- **The classes of a source are sound**, whatever it holds. -/
theorem isSound_of_mem_classesOf {source : Text} {file : Path} {c : ClassDecl}
    (h : c ∈ classesOf source file) : c.IsSound file := by
  have hempty : ScanState.IsSound {} file := by
    constructor
    · intro c hc
      cases hc
    · intro w hw
      cases hw
  exact (hempty.after le_rfl (Text.lines source)).classes c h

/-! ## Routes -/

namespace ClassDecl

variable {c : ClassDecl} {file : Path} {name : Text} {d : Discovered}

/-- The routes of a sound class are sound, and their paths are texts. -/
theorem IsSound.isSound_of_mem_routes (h : c.IsSound file) (hd : d ∈ c.routes name) :
    d.IsSound ∧ d.HasTextPath := by
  rcases List.mem_cons.mp hd with rfl | hendpoint
  · have hline : (1 : Int) ≤ c.line := by exact_mod_cast h.line_pos
    exact ⟨⟨hline, .controller, rfl⟩, CodeText.isSome_toText?_ofText _⟩
  · obtain ⟨method, hmethod, hmark⟩ := List.mem_flatMap.mp hendpoint
    obtain ⟨mark, -, hfound⟩ := List.mem_filterMap.mp hmark
    obtain ⟨httpMethod, -, rfl⟩ := Option.map_eq_some_iff.mp hfound
    obtain ⟨hpos, hname⟩ := h.methods method (List.mem_filter.mp hmethod).1
    have hline : (1 : Int) ≤ method.line := by exact_mod_cast hpos
    refine ⟨⟨hline, .endpoint httpMethod method.name hname, ?_⟩, CodeText.isSome_toText?_ofText _⟩
    exact dif_pos hname

end ClassDecl

end RouteAtlas.Controllers
