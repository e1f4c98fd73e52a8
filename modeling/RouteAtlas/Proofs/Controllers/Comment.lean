import RouteAtlas.Proofs.Controllers.Zone

/-!
# What comments hold

What a comment holds makes no difference. Two lines are the same but for their comments if they
consist of the same code and the same strings, with comments that begin and end at the same places
in between (`SameCode`). Comments are tracked along each line and from line to line: one that is
open at the end of a line is open at the beginning of the next (`SameCodeLines`).

Such lines look the same in both views. So the scans of two sources that are the same but for their
comments go through the very same states, whatever waits or is open meanwhile, and find the same
classes at the same lines (`classesOf_of_sameCode`).
-/

namespace RouteAtlas.Controllers

/-! ## Lines -/

/-- No comment ends in a text. -/
def HoldsNoEnd (s : Text) : Prop := Text.hasPart "*/".toList s = false

instance (s : Text) : Decidable (HoldsNoEnd s) := inferInstanceAs (Decidable (_ = false))

/-- Two lines, each read from the same zone on, are the same but for what their comments hold. The
last argument tells whether a comment is open at the end of both. -/
inductive SameCode : Zone → Text → Text → Bool → Prop
  /-- The rest of both lines belongs to a comment that goes on. -/
  | inside {s t : Text} (hs : HoldsNoEnd s) (ht : HoldsNoEnd t) : SameCode .comment s t true
  | close {inside other s t : Text} {isOpen : Bool} (hinside : HoldsNoEnd inside)
    (hother : HoldsNoEnd other) (h : SameCode .code s t isOpen) :
    SameCode .comment (inside ++ '*' :: '/' :: s) (other ++ '*' :: '/' :: t) isOpen
  /-- A comment takes up the rest of both lines. -/
  | line (s t : Text) : SameCode .code ('/' :: '/' :: s) ('/' :: '/' :: t) false
  | block {s t : Text} {isOpen : Bool} (h : SameCode .comment s t isOpen) :
    SameCode .code ('/' :: '*' :: s) ('/' :: '*' :: t) isOpen
  | code {c : Char} {s t : Text} {isOpen : Bool} (hs : opensComment (c :: s) = false)
    (ht : opensComment (c :: t) = false)
    (h : SameCode (if c = '"' then .string else .code) s t isOpen) :
    SameCode .code (c :: s) (c :: t) isOpen
  /-- Nothing that a string holds begins a comment. -/
  | string {c : Char} {s t : Text} {isOpen : Bool} (hc : c ≠ '\\')
    (h : SameCode (if c = '"' then .code else .string) s t isOpen) :
    SameCode .string (c :: s) (c :: t) isOpen
  | escape (c : Char) {s t : Text} {isOpen : Bool} (h : SameCode .string s t isOpen) :
    SameCode .string ('\\' :: c :: s) ('\\' :: c :: t) isOpen
  | loneEscape : SameCode .string ['\\'] ['\\'] false
  | codeEnd : SameCode .code [] [] false
  | stringEnd : SameCode .string [] [] false

theorem holdsNoEnd_cons {c : Char} {s : Text} :
    HoldsNoEnd (c :: s) ↔ ¬ "*/".toList <+: c :: s ∧ HoldsNoEnd s := by
  rw [HoldsNoEnd, Text.hasPart, Bool.or_eq_false_iff, ← Bool.not_eq_true,
    List.isPrefixOf_iff_prefix]
  rfl

/-- A comment goes on, or it ends somewhere for the first time. -/
theorem holdsNoEnd_or_exists (s : Text) :
    HoldsNoEnd s ∨ ∃ inside rest, s = inside ++ '*' :: '/' :: rest ∧ HoldsNoEnd inside := by
  induction s with
  | nil => exact .inl rfl
  | cons c s ih =>
    by_cases hclose : "*/".toList <+: c :: s
    · right
      obtain ⟨rest, hrest⟩ := hclose
      exact ⟨[], rest, hrest.symm, rfl⟩
    · rcases ih with hs | ⟨inside, rest, rfl, hinside⟩
      · exact .inl (holdsNoEnd_cons.mpr ⟨hclose, hs⟩)
      · right
        refine ⟨c :: inside, rest, rfl, holdsNoEnd_cons.mpr ⟨fun hbegins => ?_, hinside⟩⟩
        exact hclose (hbegins.trans (List.prefix_append (c :: inside) _))

/-- Within a comment nothing is seen. -/
theorem viewFrom_inside {s : Text} (h : HoldsNoEnd s) (strings : Bool) :
    viewFrom strings .comment s = ([], true) := by
  induction s with
  | nil => rfl
  | cons c s ih =>
    rw [holdsNoEnd_cons] at h
    rw [viewFrom, ih h.2]
    rintro rest rfl rfl
    exact h.1 (List.prefix_append _ rest)

/-- Behind a comment the line goes on as if there had been none. -/
theorem viewFrom_close {inside : Text} (h : HoldsNoEnd inside) (strings : Bool) (rest : Text) :
    viewFrom strings .comment (inside ++ '*' :: '/' :: rest) = viewFrom strings .code rest := by
  induction inside with
  | nil => rw [List.nil_append, viewFrom]
  | cons c inside ih =>
    rw [holdsNoEnd_cons] at h
    rw [List.cons_append, viewFrom, ih h.2]
    -- What the comment holds does not end it together with its own end: that begins with a star.
    rintro rest' rfl hslash
    cases inside with
    | nil => cases hslash
    | cons d inside =>
      cases hslash
      exact h.1 (List.prefix_append _ inside)

namespace SameCode

variable {zone : Zone} {s t : Text} {isOpen : Bool}

/-- Lines that are the same but for their comments look the same in either view. -/
theorem viewFrom_eq (h : SameCode zone s t isOpen) (strings : Bool) :
    viewFrom strings zone s = viewFrom strings zone t ∧ (viewFrom strings zone s).2 = isOpen := by
  induction h with
  | inside hs ht =>
    rw [viewFrom_inside hs, viewFrom_inside ht]
    exact ⟨rfl, rfl⟩
  | close hinside hother _ ih =>
    rw [viewFrom_close hinside, viewFrom_close hother]
    exact ih
  | line s t => exact ⟨rfl, rfl⟩
  | block _ ih =>
    rw [viewFrom, viewFrom]
    exact ih
  | code hs ht _ ih =>
    rw [viewFrom_code_cons hs, viewFrom_code_cons ht, ih.1]
    exact ⟨rfl, ih.1 ▸ ih.2⟩
  | string hc _ ih =>
    rw [viewFrom_string_cons hc, viewFrom_string_cons hc, ih.1]
    exact ⟨rfl, ih.1 ▸ ih.2⟩
  | escape c _ ih =>
    rw [viewFrom, viewFrom, ih.1]
    exact ⟨rfl, ih.1 ▸ ih.2⟩
  | loneEscape => exact ⟨rfl, rfl⟩
  | codeEnd => exact ⟨rfl, rfl⟩
  | stringEnd => exact ⟨rfl, rfl⟩

theorem exists_self (zone : Zone) (s : Text) : ∃ isOpen, SameCode zone s s isOpen := by
  -- By the length of the line: a comment is passed over as a whole.
  induction hlength : s.length using Nat.strong_induction_on generalizing zone s with
  | _ n ih =>
    have hshorter (zone : Zone) (u : Text) (hu : u.length < s.length) :
        ∃ isOpen, SameCode zone u u isOpen := ih u.length (hlength ▸ hu) zone u rfl
    cases zone with
    | comment =>
      rcases holdsNoEnd_or_exists s with hs | ⟨inside, rest, rfl, hinside⟩
      · exact ⟨true, .inside hs hs⟩
      · obtain ⟨isOpen, hrest⟩ := hshorter .code rest (by
          simp only [List.length_append, List.length_cons]
          omega)
        exact ⟨isOpen, .close hinside hinside hrest⟩
    | code =>
      cases s with
      | nil => exact ⟨false, .codeEnd⟩
      | cons c rest =>
        by_cases hopens : opensComment (c :: rest) = true
        · obtain ⟨rest, hline | hblock⟩ := exists_of_opensComment hopens
          · rw [hline]
            exact ⟨false, .line rest rest⟩
          · obtain ⟨isOpen, hrest⟩ := hshorter .comment rest (by
              rw [hblock, List.length_cons, List.length_cons]
              omega)
            rw [hblock]
            exact ⟨isOpen, .block hrest⟩
        · have hcode : opensComment (c :: rest) = false := by simpa using hopens
          obtain ⟨isOpen, hrest⟩ := hshorter (if c = '"' then .string else .code) rest (by simp)
          exact ⟨isOpen, .code hcode hcode hrest⟩
    | string =>
      cases s with
      | nil => exact ⟨false, .stringEnd⟩
      | cons c rest =>
        by_cases hescape : c = '\\'
        · subst hescape
          cases rest with
          | nil => exact ⟨false, .loneEscape⟩
          | cons d rest =>
            obtain ⟨isOpen, hrest⟩ := hshorter .string rest (by
              rw [List.length_cons, List.length_cons]
              omega)
            exact ⟨isOpen, .escape d hrest⟩
        · obtain ⟨isOpen, hrest⟩ := hshorter (if c = '"' then .code else .string) rest (by simp)
          exact ⟨isOpen, .string hescape hrest⟩

/-- Every line is the same as itself. -/
theorem self (zone : Zone) (s : Text) : SameCode zone s s (viewFrom true zone s).2 := by
  obtain ⟨isOpen, h⟩ := exists_self zone s
  rw [(h.viewFrom_eq true).2]
  exact h

end SameCode

/-! ## Sources -/

/-- Lines, as many as others, that are the same as those but for their comments, if a comment is or
is not open in front of both. -/
inductive SameCodeLines : Bool → List Text → List Text → Prop
  | nil (isOpen : Bool) : SameCodeLines isOpen [] []
  | cons {isOpen goesOn : Bool} {line other : Text} {lines others : List Text}
    (hline : SameCode (.start isOpen) line other goesOn)
    (hlines : SameCodeLines goesOn lines others) :
    SameCodeLines isOpen (line :: lines) (other :: others)

theorem sameCodeLines_self (isOpen : Bool) (lines : List Text) :
    SameCodeLines isOpen lines lines := by
  induction lines generalizing isOpen with
  | nil => exact .nil isOpen
  | cons line lines ih => exact .cons (.self (.start isOpen) line) (ih _)

namespace ScanState

variable {s : ScanState} {isOpen : Bool}

/-- Lines that are the same but for their comments do the same to a state. -/
theorem addLine_of_sameCode {line other : Text} {goesOn : Bool}
    (h : SameCode (.start isOpen) line other goesOn) (hcomments : s.comments = (isOpen, isOpen))
    (file : Path) (n : Nat) : s.addLine file n line = s.addLine file n other := by
  rw [addLine_of_comments hcomments, addLine_of_comments hcomments, (h.viewFrom_eq true).1,
    (h.viewFrom_eq false).1]

/-- **A run over lines that are the same but for their comments** ends in the same state. -/
theorem after_of_sameCode {lines others : List Text} (h : SameCodeLines isOpen lines others)
    (hcomments : s.comments = (isOpen, isOpen)) (file : Path) (n : Nat) :
    s.after file n lines = s.after file n others := by
  induction h generalizing s n with
  | nil => rfl
  | @cons isOpen goesOn line other lines others hline _ ih =>
    have hnext := comments_addLine hcomments file n line
    rw [(hline.viewFrom_eq true).2] at hnext
    rw [after_cons, after_cons, ← addLine_of_sameCode hline hcomments, ih hnext]

end ScanState

/-- **What comments hold makes no difference.** Any two sources with the same number of lines that
are the same but for what their comments hold, with comments tracked from line to line, have the
same classes: the same methods, attributes and lines. Every source may stand on either side, since
it is the same as itself. -/
theorem classesOf_of_sameCode (source : Text) (file : Path) :
    SameCodeLines false (Text.lines source) (Text.lines source) ∧
      ∀ other, SameCodeLines false (Text.lines source) (Text.lines other) →
        classesOf source file = classesOf other file := by
  refine ⟨sameCodeLines_self false _, fun other h => ?_⟩
  have hrun : scan file (Text.lines source) = scan file (Text.lines other) :=
    ScanState.after_of_sameCode h rfl file 1
  rw [classesOf, classesOf, hrun]

/-- A class whose attribute is commented out, behind a comment that holds a class and a brace. -/
def commentedLines : List Text :=
  ["/* class Old \x7b".toList, "*/ // [ApiController]".toList,
    "public class New \x7b \x7d".toList]

/-- The same class with other comments around it. -/
def recommentedLines : List Text :=
  ["/* \x7d \"".toList, "of old */ //".toList, "public class New \x7b \x7d".toList]

/-- Sources of these lines are the same but for their comments, so they have the same classes. -/
theorem classesOf_of_sameCode_recommented :
    SameCodeLines false (Text.lines (Text.joinWith ['\n'] commentedLines))
        (Text.lines (Text.joinWith ['\n'] recommentedLines)) ∧
      classesOf (Text.joinWith ['\n'] commentedLines) ⟨.relative, ["New.cs".toList]⟩ =
        classesOf (Text.joinWith ['\n'] recommentedLines) ⟨.relative, ["New.cs".toList]⟩ := by
  have hsecond : SameCode .comment "*/ // [ApiController]".toList "of old */ //".toList false :=
    @SameCode.close [] "of old ".toList _ _ false (by decide) (by decide)
      (.code (by decide) (by decide) (.line " [ApiController]".toList []))
  have hsame : SameCodeLines false (Text.lines (Text.joinWith ['\n'] commentedLines))
      (Text.lines (Text.joinWith ['\n'] recommentedLines)) := by
    rw [Text.lines_joinWith (by decide) (by decide), Text.lines_joinWith (by decide) (by decide)]
    refine .cons (.block (.inside (by decide) (by decide))) (.cons hsecond ?_)
    exact sameCodeLines_self false _
  exact ⟨hsame, (classesOf_of_sameCode _ _).2 _ hsame⟩

end RouteAtlas.Controllers
