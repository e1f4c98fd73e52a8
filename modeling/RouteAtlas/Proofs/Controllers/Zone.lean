import RouteAtlas.Proofs.Controllers.Outline

/-!
# Zones of a line

Both views of a line follow the same zones: code, comments and strings. They are one function that
keeps or drops what strings hold (`viewFrom`), so what is true of the zones is shown for both views
at once. A line that comes to its code goes on there as a line of its own (`viewFrom_append`). The
views agree on whether a comment is open at the end of a line (`viewFrom_snd`), and so the two marks
that the scan carries from line to line are one (`ScanState.comments_after`).

The views themselves are written out as two functions, because they are two functions where they
come from, and nothing keeps them in step but their text. That they are the one function is shown by
going through a line once for each of them, with the cases of that function: two characters that
open or close a comment, an escape in a string, a single character, and the end of the line.
-/

namespace RouteAtlas.Controllers

/-! ## Where comments begin -/

/-- A comment begins with a text, to the end of the line or up to its own end. -/
def opensComment (s : Text) : Bool := "//".toList.isPrefixOf s || "/*".toList.isPrefixOf s

/-- Only a slash opens a comment, and only with one of two characters behind it. -/
theorem opensComment_eq_false_iff {c : Char} {rest : Text} :
    opensComment (c :: rest) = false ↔
      (c = '/' → rest.head? ≠ some '/' ∧ rest.head? ≠ some '*') := by
  cases rest with
  | nil => simp [opensComment, List.isPrefixOf]
  | cons d rest =>
    simp [opensComment]
    grind

theorem exists_of_opensComment {s : Text} (h : opensComment s = true) :
    ∃ rest, s = '/' :: '/' :: rest ∨ s = '/' :: '*' :: rest := by
  rw [opensComment, Bool.or_eq_true, List.isPrefixOf_iff_prefix, List.isPrefixOf_iff_prefix] at h
  rcases h with ⟨rest, hline⟩ | ⟨rest, hblock⟩
  · exact ⟨rest, .inl hline.symm⟩
  · exact ⟨rest, .inr hblock.symm⟩

/-! ## Both views as one -/

/-- A text in front of a view. -/
def inFront (s : Text) (view : Text × Bool) : Text × Bool := (s ++ view.1, view.2)

/-- The line from a zone on without comments, with or without what strings hold, and whether a
comment is open at its end. -/
def viewFrom (strings : Bool) : Zone → Text → Text × Bool
  | .comment, '*' :: '/' :: rest => viewFrom strings .code rest
  | .comment, _ :: rest => viewFrom strings .comment rest
  | .comment, [] => ([], true)
  | .string, '\\' :: c :: rest =>
    inFront (if strings then ['\\', c] else []) (viewFrom strings .string rest)
  | .string, c :: rest =>
    inFront (if strings || c == '"' then [c] else [])
      (viewFrom strings (if c = '"' then .code else .string) rest)
  | .code, '/' :: '/' :: _ => ([], false)
  | .code, '/' :: '*' :: rest => viewFrom strings .comment rest
  | .code, c :: rest => inFront [c] (viewFrom strings (if c = '"' then .string else .code) rest)
  | _, [] => ([], false)

/-- In code, a character is kept, and a quote begins a string. -/
theorem viewFrom_code_cons {c : Char} {rest : Text} (h : opensComment (c :: rest) = false)
    (strings : Bool) :
    viewFrom strings .code (c :: rest) =
      inFront [c] (viewFrom strings (if c = '"' then .string else .code) rest) := by
  rw [viewFrom]
  · rintro rest' rfl rfl
    cases h
  · rintro rest' rfl rfl
    cases h

/-- In a string, a quote is kept, and other characters if strings are. -/
theorem viewFrom_string_cons {c : Char} (h : c ≠ '\\') (strings : Bool) (rest : Text) :
    viewFrom strings .string (c :: rest) =
      inFront (if strings || c == '"' then [c] else [])
        (viewFrom strings (if c = '"' then .code else .string) rest) := by
  rw [viewFrom]
  rintro d rest' rfl -
  exact absurd rfl h

/-- **The view that keeps strings** is the function for keeping them. -/
theorem withoutCommentsFrom_eq (zone : Zone) (s : Text) :
    withoutCommentsFrom zone s = viewFrom true zone s := by
  fun_induction viewFrom true zone s with
  | case1 rest ih => rw [withoutCommentsFrom, ih]
  | case2 c rest hclose ih =>
    rw [withoutCommentsFrom, ih]
    exact hclose
  | case3 => rfl
  | case4 c rest ih =>
    rw [withoutCommentsFrom, ih]
    rfl
  | case5 c rest hescape ih =>
    rw [withoutCommentsFrom, ih]
    · rfl
    · exact hescape
  | case6 => rfl
  | case7 rest ih => rw [withoutCommentsFrom, ih]
  | case8 c rest hline hblock ih =>
    rw [withoutCommentsFrom, ih]
    · rfl
    · exact hline
    · exact hblock
  | case9 zone hzone =>
    cases zone with
    | comment => exact absurd rfl hzone
    | code => rfl
    | string => rfl

/-- **The view that drops strings** is the function for dropping them. -/
theorem bareCodeFrom_eq (zone : Zone) (s : Text) :
    bareCodeFrom zone s = viewFrom false zone s := by
  fun_induction viewFrom false zone s with
  | case1 rest ih => rw [bareCodeFrom, ih]
  | case2 c rest hclose ih =>
    rw [bareCodeFrom, ih]
    exact hclose
  | case3 => rfl
  | case4 c rest ih =>
    rw [bareCodeFrom, ih]
    rfl
  | case5 c rest hescape ih =>
    -- A quote is kept for itself here, and there as a character that always is.
    by_cases hquote : c = '"'
    · subst hquote
      rw [if_pos rfl] at ih
      rw [bareCodeFrom, ih]
      rfl
    · rw [if_neg hquote] at ih
      rw [bareCodeFrom, ih, if_neg hquote, if_neg (by simpa using hquote)]
      · rfl
      · exact hescape
      · exact hquote
  | case6 => rfl
  | case7 rest ih => rw [bareCodeFrom, ih]
  | case8 c rest hline hblock ih =>
    rw [bareCodeFrom, ih]
    · rfl
    · exact hline
    · exact hblock
  | case9 zone hzone =>
    cases zone with
    | comment => exact absurd rfl hzone
    | code => rfl
    | string => rfl

/-- Whether a comment is open does not depend on what becomes of strings. -/
theorem viewFrom_snd (strings others : Bool) (zone : Zone) (s : Text) :
    (viewFrom strings zone s).2 = (viewFrom others zone s).2 := by
  fun_induction viewFrom strings zone s with
  | case1 rest ih => rw [ih, viewFrom]
  | case2 c rest hclose ih =>
    rw [ih, viewFrom]
    exact hclose
  | case3 => rfl
  | case4 c rest ih =>
    rw [viewFrom]
    exact ih
  -- What is kept makes no difference for the zone behind it.
  | case5 c rest hescape ih =>
    rw [viewFrom]
    · exact ih
    · exact hescape
  | case6 => rfl
  | case7 rest ih => rw [ih, viewFrom]
  | case8 c rest hline hblock ih =>
    rw [viewFrom]
    · exact ih
    · exact hline
    · exact hblock
  | case9 zone hzone =>
    cases zone with
    | comment => exact absurd rfl hzone
    | code => rfl
    | string => rfl

/-! ## Lines that go on -/

/-- The zone behind a text that begins in a zone; there is none if a comment takes up the rest of
the line. -/
def zoneAfter : Zone → Text → Option Zone
  | .comment, '*' :: '/' :: rest => zoneAfter .code rest
  | .comment, _ :: rest => zoneAfter .comment rest
  | .string, '\\' :: _ :: rest => zoneAfter .string rest
  | .string, c :: rest => zoneAfter (if c = '"' then .code else .string) rest
  | .code, '/' :: '/' :: _ => none
  | .code, '/' :: '*' :: rest => zoneAfter .comment rest
  | .code, c :: rest => zoneAfter (if c = '"' then .string else .code) rest
  | zone, [] => some zone

/-- A line that comes to its code goes on there as a line of its own, unless a slash in front makes
a comment of it. -/
theorem viewFrom_append {zone : Zone} {front rest : Text} (h : zoneAfter zone front = some .code)
    (hslash : rest.head? ≠ some '/') (hstar : rest.head? ≠ some '*') (strings : Bool) :
    viewFrom strings zone (front ++ rest) =
      inFront (viewFrom strings zone front).1 (viewFrom strings .code rest) := by
  fun_induction zoneAfter zone front with
  | case1 front ih =>
    rw [List.cons_append, List.cons_append, viewFrom, viewFrom, ih h]
  | case2 c front hclose ih =>
    have hfront : viewFrom strings .comment (c :: front) = viewFrom strings .comment front := by
      rw [viewFrom]
      exact hclose
    rw [hfront, List.cons_append, viewFrom, ih h]
    intro rest' hc hfirst
    cases front with
    | nil => cases h
    | cons d front =>
      cases hfirst
      exact hclose front hc rfl
  | case3 c front ih =>
    rw [List.cons_append, List.cons_append, viewFrom, viewFrom, ih h]
    simp [inFront]
  | case4 c front hescape ih =>
    -- A backslash would take a character along, so it can only be the last one here.
    have hc : c ≠ '\\' ∨ front = [] := by
      by_contra hne
      rw [not_or, not_not] at hne
      obtain ⟨d, front, rfl⟩ := List.exists_cons_of_ne_nil hne.2
      exact hescape d front hne.1 rfl
    rcases hc with hc | rfl
    · rw [List.cons_append, viewFrom_string_cons hc, viewFrom_string_cons hc, ih h]
      simp [inFront]
    · have hquote : c = '"' := by
        by_contra hne
        rw [if_neg hne] at h
        cases h
      subst hquote
      rw [List.singleton_append, viewFrom_string_cons (by decide), viewFrom_string_cons (by decide),
        ← List.nil_append rest, ih h]
      simp [inFront]
  | case5 => cases h
  | case6 front ih =>
    rw [List.cons_append, List.cons_append, viewFrom, viewFrom, ih h]
  | case7 c front hline hblock ih =>
    -- What opens no comment at the end of the front may still do so with what follows.
    have hfront : opensComment (c :: front) = false := by
      rw [opensComment_eq_false_iff]
      intro hc
      cases front with
      | nil => simp
      | cons d front =>
        refine ⟨fun hd => ?_, fun hd => ?_⟩
        · exact hline front hc (by rw [Option.some.inj hd])
        · exact hblock front hc (by rw [Option.some.inj hd])
    have hwhole : opensComment (c :: (front ++ rest)) = false := by
      rw [opensComment_eq_false_iff] at hfront ⊢
      intro hc
      cases front with
      | nil => exact ⟨hslash, hstar⟩
      | cons d front => exact hfront hc
    rw [List.cons_append, viewFrom_code_cons hwhole, viewFrom_code_cons hfront, ih h]
    simp [inFront]
  | case8 zone =>
    obtain rfl : zone = .code := Option.some.inj h
    rfl

/-! ## Comments along a scan -/

/-- A comment is open behind some lines, if it was or was not in front of them. -/
def openAfter (isOpen : Bool) (lines : List Text) : Bool :=
  lines.foldl (fun isOpen line => (viewFrom true (.start isOpen) line).2) isOpen

namespace ScanState

/-- Whether comments are open, in either view of the text. -/
def comments (s : ScanState) : Bool × Bool := (s.inComment, s.inCodeComment)

variable (s : ScanState)

@[simp] theorem comments_brace (c : Char) : (s.brace c).comments = s.comments := by
  unfold brace
  split
  · rfl
  · split <;> rfl

@[simp] theorem comments_foldl_brace (code : Text) : (code.foldl brace s).comments = s.comments := by
  induction code generalizing s with
  | nil => rfl
  | cons c code ih => rw [List.foldl_cons, ih, comments_brace]

@[simp] theorem comments_addAttributes (line : Nat) (attributes : List Attribute) :
    (s.addAttributes line attributes).comments = s.comments := by
  unfold addAttributes
  split
  · rfl
  · split <;> rfl

@[simp] theorem comments_addMethod (line : Nat) (head : MethodHead) :
    (s.addMethod line head).comments = s.comments := by
  unfold addMethod
  split
  · split <;> rfl
  · rfl

@[simp] theorem comments_addCode (file : Path) (line : Nat) (code : Text) :
    (s.addCode file line code).comments = s.comments := by
  unfold addCode
  split
  · rfl
  · split
    · rfl
    · split
      next head _ => exact s.comments_addMethod line head
      next => rfl

@[simp] theorem comments_declarations (file : Path) (line : Nat) (text : Text) :
    (s.declarations file line text).comments = s.comments := by
  unfold declarations
  split
  · rfl
  · simp

variable {s} {isOpen : Bool}

/-- What a line does to a state in which both views agree on whether a comment is open. -/
theorem addLine_of_comments (h : s.comments = (isOpen, isOpen)) (file : Path) (line : Nat)
    (text : Text) :
    s.addLine file line text =
      (viewFrom false (.start isOpen) text).1.foldl brace
        (declarations
          { s with
            inComment := (viewFrom true (.start isOpen) text).2
            inCodeComment := (viewFrom true (.start isOpen) text).2 }
          file line (viewFrom true (.start isOpen) text).1) := by
  obtain ⟨hvisible, hcode⟩ := Prod.mk.inj h
  unfold addLine withoutComments bareCode
  rw [hvisible, hcode, withoutCommentsFrom_eq, bareCodeFrom_eq]
  dsimp only
  rw [viewFrom_snd false true]

/-- **A line** leaves both marks alike if it finds them alike. -/
theorem comments_addLine (h : s.comments = (isOpen, isOpen)) (file : Path) (line : Nat)
    (text : Text) :
    (s.addLine file line text).comments =
      ((viewFrom true (.start isOpen) text).2, (viewFrom true (.start isOpen) text).2) := by
  rw [addLine_of_comments h, comments_foldl_brace, comments_declarations]
  rfl

/-- Both views go on to agree, whatever lines follow. -/
theorem comments_after (h : s.comments = (isOpen, isOpen)) (file : Path) (line : Nat)
    (lines : List Text) :
    (s.after file line lines).comments = (openAfter isOpen lines, openAfter isOpen lines) := by
  induction lines generalizing s isOpen line with
  | nil => exact h
  | cons text lines ih =>
    rw [after_cons, ih (comments_addLine h file line text)]
    rfl

end ScanState

end RouteAtlas.Controllers
