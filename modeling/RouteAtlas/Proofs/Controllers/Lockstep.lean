import RouteAtlas.Proofs.Controllers.Zone

/-!
# The views in step

The two views of a line are written as two functions, and each carries its own mark of an open
comment from line to line. They never drift apart: the view without strings is what is left of the
view with strings when all that its strings hold is taken away (`emptied`), and both find the same
comment open at the end of the line (`bareCode_eq`). So the two marks of a scan agree after every
line (`views_in_step`).

A string of a line is lexed again in what is left of the line. That gives the same strings because
comments are dropped from code only: no character of a string is lost, and no quote in a comment
stays.
-/

namespace RouteAtlas.Controllers

/-- A text without the characters strictly inside its strings; `quoted` tells whether a string is
open in front of it. A string goes from one quote to the next, where a backslash takes the character
behind it along, or else to the end of the text. -/
def emptied : (quoted : Bool) → Text → Text
  | _, [] => []
  | true, '\\' :: _ :: rest => emptied true rest
  | true, c :: rest => if c = '"' then '"' :: emptied false rest else emptied true rest
  | false, c :: rest => c :: emptied (c == '"') rest

theorem emptied_string_cons {c : Char} (h : c ≠ '\\') (rest : Text) :
    emptied true (c :: rest) =
      if c = '"' then '"' :: emptied false rest else emptied true rest := by
  rw [emptied]
  rintro d rest' rfl -
  exact h rfl

/-- A string is open in a zone. -/
def Zone.isQuoted (zone : Zone) : Bool := zone == .string

@[simp] theorem Zone.isQuoted_code : Zone.code.isQuoted = false := rfl

@[simp] theorem Zone.isQuoted_string : Zone.string.isQuoted = true := rfl

@[simp] theorem Zone.isQuoted_start (inComment : Bool) : (Zone.start inComment).isQuoted = false := by
  cases inComment <;> rfl

/-- What strings hold is all that the one view has and the other has not. -/
theorem viewFrom_fst (zone : Zone) (s : Text) :
    (viewFrom false zone s).1 = emptied zone.isQuoted (viewFrom true zone s).1 := by
  fun_induction viewFrom true zone s with
  | case1 rest ih =>
    rw [viewFrom, ih]
    rfl
  | case2 c rest hclose ih =>
    rw [viewFrom, ih]
    exact hclose
  | case3 => rfl
  | case4 c rest ih =>
    rw [viewFrom]
    exact ih
  | case5 c rest hescape ih =>
    by_cases hbackslash : c = '\\'
    · -- a backslash that stands for itself is the last character of the line
      cases rest with
      | nil =>
        subst hbackslash
        rfl
      | cons d rest => exact absurd rfl (hescape d rest hbackslash)
    · rw [viewFrom_string_cons hbackslash]
      simp only [Zone.isQuoted_string, Bool.true_or, if_true, inFront, List.singleton_append]
      rw [emptied_string_cons hbackslash]
      by_cases hquote : c = '"'
      · subst hquote
        exact congrArg ('"' :: ·) ih
      · simp only [if_neg hquote, Zone.isQuoted_string] at ih
        simp [hquote, ih]
  | case6 => rfl
  | case7 rest ih =>
    rw [viewFrom, ih]
    rfl
  | case8 c rest hline hblock ih =>
    rw [viewFrom]
    · have hnext : (if c = '"' then Zone.string else .code).isQuoted = (c == '"') := by
        by_cases hquote : c = '"' <;> simp [hquote, Zone.isQuoted]
      rw [hnext] at ih
      rw [inFront, inFront, Zone.isQuoted_code, List.singleton_append, List.singleton_append,
        emptied, ih]
    · exact hline
    · exact hblock
  | case9 zone hzone =>
    cases zone with
    | comment => exact absurd rfl hzone
    | code => rfl
    | string => rfl

/-- **One line in both views**, with the same mark of an open comment in front of them. -/
theorem bareCode_eq (line : Text) (isOpen : Bool) :
    bareCode line isOpen =
      (emptied false (withoutComments line isOpen).1, (withoutComments line isOpen).2) := by
  rw [bareCode, withoutComments, bareCodeFrom_eq, withoutCommentsFrom_eq, viewFrom_snd true false]
  refine Prod.ext ?_ rfl
  rw [viewFrom_fst, Zone.isQuoted_start]

/-- The marks of a scan agree, whatever lines it has gone through. -/
theorem inComment_scan (file : Path) (lines : List Text) :
    (scan file lines).inComment = (scan file lines).inCodeComment := by
  have hcomments : (scan file lines).comments = (openAfter false lines, openAfter false lines) :=
    ScanState.comments_after rfl file 1 lines
  obtain ⟨hinComment, hinCodeComment⟩ := Prod.mk.inj hcomments
  rw [hinComment, hinCodeComment]

/-- **The views stay in step.** For every line, and whether or not a comment is open in front of it,
the view without strings is the view with strings without the characters strictly inside of them,
and the same mark goes on to the next line. So in a scan of any lines, where each view has its own
mark, the marks agree after each of them. -/
theorem views_in_step :
    (∀ line isOpen,
      (bareCode line isOpen).2 = (withoutComments line isOpen).2 ∧
        (bareCode line isOpen).1 = emptied false (withoutComments line isOpen).1) ∧
      ∀ file (lines : List Text) n,
        (scan file (lines.take n)).inComment = (scan file (lines.take n)).inCodeComment := by
  constructor
  · intro line isOpen
    rw [bareCode_eq]
    exact ⟨rfl, rfl⟩
  · intro file lines n
    exact inComment_scan file (lines.take n)

/-- A comment between two strings, an escaped quote, and a comment mark in a string. -/
example : bareCode "Log(\"a\\\"\x7b\" /* \" */ + \"//\"); // end".toList false =
    ("Log(\"\"  + \"\"); ".toList, false) := by decide

end RouteAtlas.Controllers
