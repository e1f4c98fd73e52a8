import RouteAtlas.Proofs.Controllers.Attribute
import RouteAtlas.Proofs.Controllers.Head
import RouteAtlas.Proofs.Controllers.Zone

/-!
# What literals hold

What a literal holds makes no difference where it stands in code, behind the attribute lists of its
line: two sources with different literals at such a place have the same classes
(`classesOf_of_literals`). Three things have to be excluded, because the text in which declarations
are searched keeps what literals hold, and the text in which braces are counted keeps what stands
between single quotes:

* the declaration in front of the literal goes on there (`endsInHead`), so that the literal is read
  as a part of its bases or of its type parameters;
* a string declares a class, as `"class list"` does, in a line that declares none in front of it;
* a character is a brace or a double quote.

Otherwise what a literal holds can hide a method or make up a class
(`classesOf_of_telling_literals`).
-/

namespace RouteAtlas

/-- A text with something else than blanks in it is not blank. -/
theorem Text.trim_ne_nil {s : Text} {c : Char} (hc : c ∈ s) (h : isBlank c = false) :
    trim s ≠ [] := by
  have hstart : s.dropWhile isBlank ≠ [] := by
    intro hnil
    have hblank := List.dropWhile_eq_nil_iff.mp hnil c hc
    rw [h] at hblank
    cases hblank
  intro hnil
  rw [trim, trimWhile, dropEndWhile, List.reverse_eq_nil_iff, List.dropWhile_eq_nil_iff] at hnil
  have hfirst := List.head_dropWhile_not isBlank hstart
  rw [hnil _ (List.mem_reverse.mpr (List.head_mem hstart))] at hfirst
  cases hfirst

namespace Controllers

/-! ## Literals -/

/-- What stands between the quotes of a string: each quote and each backslash in it is escaped. -/
def isStringBody : Text → Bool
  | [] => true
  | '\\' :: _ :: rest => isStringBody rest
  | c :: rest => c != '"' && c != '\\' && isStringBody rest

/-- What stands between the quotes of a character: one character, or an escape that may go on with
digits. -/
def isCharacterBody : Text → Bool
  | [c] => c != '\'' && c != '\\'
  | '\\' :: _ :: more => more.all Text.isWordChar
  | _ => false

/-- A literal on one line. -/
inductive Literal where
  | string (body : Text) (isLine : Text.IsLine body) (isBody : isStringBody body = true)
  | character (body : Text) (isLine : Text.IsLine body) (isBody : isCharacterBody body = true)

namespace Literal

/-- The character on both sides of what the literal holds. -/
def mark : Literal → Char
  | string .. => '"'
  | character .. => '\''

/-- What the literal holds. -/
def body : Literal → Text
  | string body .. => body
  | character body .. => body

/-- The literal as it stands in a source. -/
def text (l : Literal) : Text := l.mark :: (l.body ++ [l.mark])

/-- What is left of a literal in a view of its line. -/
def shown (strings : Bool) : Literal → Text
  | string body .. => '"' :: ((if strings then body else []) ++ ['"'])
  | character body .. => '\'' :: (body ++ ['\''])

/-- Behind this code, nothing that the literal holds is taken for code: it declares no class, unless
one is declared before, and it has no braces and no double quotes that count. -/
def IsInert (code : Text) : Literal → Prop
  | string body .. => (ClassHead.find? code).isSome = true ∨ ClassHead.find? body = none
  | character body .. => Avoids body ['"', '{', '}']

variable (l : Literal)

theorem mark_mem_quoteMarks : l.mark ∈ quoteMarks := by
  cases l with
  | string => exact List.mem_cons_self
  | character => exact List.mem_cons_of_mem _ List.mem_cons_self

theorem isLine_text : Text.IsLine l.text := by
  have hmark : Text.endsLine l.mark = false := by cases l <;> rfl
  have hbody : Text.IsLine l.body := by
    cases l with
    | string body isLine _ => exact isLine
    | character body isLine _ => exact isLine
  intro c hc
  rw [text, List.mem_cons, List.mem_append, List.mem_singleton] at hc
  rcases hc with rfl | hc | rfl
  · exact hmark
  · exact hbody c hc
  · exact hmark

theorem text_ne_nil : l.text ≠ [] := List.cons_ne_nil _ _

end Literal

/-- A string that is open ends at the quote behind its body. -/
theorem viewFrom_stringBody {body : Text} (h : isStringBody body = true) (strings : Bool)
    (rest : Text) :
    viewFrom strings .string (body ++ '"' :: rest) =
      inFront ((if strings then body else []) ++ ['"']) (viewFrom strings .code rest) := by
  fun_induction isStringBody body with
  | case1 =>
    rw [List.nil_append, viewFrom_string_cons (by decide)]
    simp
  | case2 c body ih =>
    rw [List.cons_append, List.cons_append, viewFrom, ih h]
    cases strings <;> rfl
  | case3 c body hescape ih =>
    rw [Bool.and_eq_true, Bool.and_eq_true, bne_iff_ne, bne_iff_ne] at h
    obtain ⟨⟨hquote, hback⟩, hbody⟩ := h
    rw [List.cons_append, viewFrom_string_cons hback, if_neg hquote, ih hbody]
    cases strings <;> simp [inFront, hquote]

theorem viewFrom_plain {s : Text} (h : IsPlain s) (strings : Bool) (rest : Text) :
    viewFrom strings .code (s ++ rest) = inFront s (viewFrom strings .code rest) := by
  induction s with
  | nil => rfl
  | cons c s ih =>
    rw [IsPlain, avoids_cons] at h
    obtain ⟨hquote, hslash⟩ : c ≠ '"' ∧ c ≠ '/' := by simpa using h.1
    have hcode : opensComment (c :: (s ++ rest)) = false :=
      opensComment_eq_false_iff.mpr fun hc => absurd hc hslash
    rw [List.cons_append, viewFrom_code_cons hcode, if_neg hquote, ih h.2]
    rfl

/-- Where no comment can begin behind it, even a slash stays as it is. -/
theorem viewFrom_code_append {c : Char} {s : Text} (hc : c ≠ '"') (hs : s ≠ [])
    (h : Avoids s ['"', '/', '*']) (strings : Bool) (rest : Text) :
    viewFrom strings .code (c :: (s ++ rest)) = inFront (c :: s) (viewFrom strings .code rest) := by
  obtain ⟨d, s, rfl⟩ := List.exists_cons_of_ne_nil hs
  have hcode : opensComment (c :: (d :: s ++ rest)) = false := by
    rw [opensComment_eq_false_iff]
    intro _
    have hd := (avoids_cons.mp h).1
    simp at hd
    simp [hd]
  rw [viewFrom_code_cons hcode, if_neg hc, viewFrom_plain (h.mono (by decide))]
  rfl

/-- What stands between single quotes is looked at like code. -/
theorem viewFrom_characterBody {body : Text} (h : isCharacterBody body = true)
    (hquote : '"' ∉ body) (strings : Bool) (rest : Text) :
    viewFrom strings .code (body ++ ('\'' :: rest)) =
      inFront (body ++ ['\'']) (viewFrom strings .code rest) := by
  have hmark : Avoids ['\''] ['"', '/', '*'] := by decide
  unfold isCharacterBody at h
  split at h
  -- A single character,
  next c =>
    rw [List.mem_singleton] at hquote
    exact viewFrom_code_append (Ne.symm hquote) (by decide) hmark strings rest
  -- or an escape with letters and digits behind it.
  next c more =>
    rw [List.mem_cons, List.mem_cons, not_or, not_or] at hquote
    have hmore : Avoids more ['"', '/', '*'] := by
      intro d hd hsign
      have hword : Text.isWordChar d = true := List.all_eq_true.mp h d hd
      simp only [List.mem_cons, List.not_mem_nil, or_false] at hsign
      rcases hsign with rfl | rfl | rfl <;> cases hword
    have hescape : opensComment ('\\' :: c :: (more ++ '\'' :: rest)) = false := rfl
    have hbehind := viewFrom_code_append (Ne.symm hquote.2.1) (by simp) (hmore.append hmark) strings
      rest
    rw [List.append_assoc, List.singleton_append] at hbehind
    rw [List.cons_append, List.cons_append, viewFrom_code_cons hescape, if_neg (by decide), hbehind]
    rfl
  next => cases h

namespace Literal

variable {l : Literal}

/-- A literal in code looks the same wherever it stands. -/
theorem viewFrom_text {code : Text} (h : l.IsInert code) (strings : Bool) (rest : Text) :
    viewFrom strings .code (l.text ++ rest) =
      inFront (l.shown strings) (viewFrom strings .code rest) := by
  cases l with
  | string body _ isBody =>
    have hcode : opensComment ('"' :: (body ++ '"' :: rest)) = false := rfl
    show viewFrom strings .code ('"' :: ((body ++ ['"']) ++ rest)) = _
    rw [List.append_assoc, List.singleton_append, viewFrom_code_cons hcode, if_pos rfl,
      viewFrom_stringBody isBody]
    rfl
  | character body _ isBody =>
    have hquote : '"' ∉ body := fun hmem => h '"' hmem (by decide)
    have hcode : opensComment ('\'' :: (body ++ '\'' :: rest)) = false := rfl
    show viewFrom strings .code ('\'' :: ((body ++ ['\'']) ++ rest)) = _
    rw [List.append_assoc, List.singleton_append, viewFrom_code_cons hcode, if_neg (by decide),
      viewFrom_characterBody isBody hquote]
    rfl

/-- The view that keeps strings shows a literal as it is. -/
theorem shown_true (l : Literal) : l.shown true = l.text := by
  cases l <;> rfl

/-- There are no braces in what is left of a literal where braces are counted. -/
theorem avoids_shown {code : Text} (h : l.IsInert code) : Avoids (l.shown false) ['{', '}'] := by
  cases l with
  | string =>
    show Avoids ['"', '"'] ['{', '}']
    decide
  | character body =>
    have hbody : Avoids body ['{', '}'] := Avoids.mono h (by decide)
    exact avoids_cons.mpr ⟨by decide, hbody.append (by decide)⟩

/-- A character is too short for a declaration. -/
theorem find?_characterBody {body : Text} (h : isCharacterBody body = true) :
    ClassHead.find? body = none := by
  unfold ClassHead.find?
  rw [classHeadFrom?_eq, Option.map_eq_none_iff]
  cases hdeclared : declaredFrom? false body with
  | none => rfl
  | some declared =>
    obtain ⟨front, blank, rest, hbody, hblank⟩ := exists_of_declaredFrom? hdeclared
    have hlength : 2 ≤ (front ++ "class".toList).length := by
      rw [List.length_append]
      exact Nat.le_add_left_of_le (by decide)
    rw [← List.append_assoc] at hbody
    unfold isCharacterBody at h
    split at h
    next c =>
      have hone := congrArg List.length hbody
      rw [List.length_append] at hone
      simp at hone
      omega
    next c more =>
      -- The blank is one of the digits of the escape.
      have hmore : more = (front ++ "class".toList).drop 2 ++ blank :: rest := by
        have hdrop := congrArg (List.drop 2) hbody
        rw [List.drop_append_of_le_length hlength] at hdrop
        exact hdrop
      have hword : Text.isWordChar blank = true :=
        List.all_eq_true.mp h blank (by rw [hmore]; simp)
      rw [Text.isBlank_of_isWordChar hword] at hblank
      cases hblank
    next => cases h

/-- An inert literal declares no class, where none is declared in front of it. -/
theorem find?_body_of_isInert {code : Text} (h : l.IsInert code)
    (hcode : ClassHead.find? code = none) : ClassHead.find? l.body = none := by
  cases l with
  | string =>
    rcases h with hsome | hnone
    · rw [hcode] at hsome
      cases hsome
    · exact hnone
  | character body _ isBody => exact find?_characterBody isBody

/-- A class is declared in front of a literal, or else behind it. -/
theorem find?_text {code : Text} (h : l.IsInert code) (hopen : classIsOpen code = false)
    (rest : Text) :
    ClassHead.find? (code ++ (l.text ++ rest)) =
      (ClassHead.find? code).or (ClassHead.find? rest) := by
  have hmark := l.mark_mem_quoteMarks
  have htext : l.text ++ rest = l.mark :: (l.body ++ l.mark :: rest) := by
    rw [text, List.cons_append, List.append_assoc, List.singleton_append]
  rw [htext, find?_append hmark hopen]
  cases hcode : ClassHead.find? code with
  | some head => rfl
  | none =>
    have hbody := find?_body_of_isInert h hcode
    have hbodyOpen : classIsOpen l.body = false := by
      unfold ClassHead.find? at hbody
      rw [classHeadFrom?_eq, Option.map_eq_none_iff] at hbody
      rw [classIsOpen, hbody]
      rfl
    rw [find?_append hmark hbodyOpen, hbody]
    rfl

/-- **A view of a line with a literal** is the view of what is in front, what is shown of the
literal, and the view of what is behind it. -/
theorem viewFrom_line {code : Text} (h : l.IsInert code) {zone : Zone} {front : Text}
    (hzone : zoneAfter zone front = some .code) (strings : Bool) (back : Text) :
    viewFrom strings zone (front ++ (l.text ++ back)) =
      ((viewFrom strings zone front).1 ++ (l.shown strings ++ (viewFrom strings .code back).1),
        (viewFrom strings .code back).2) := by
  have hmark (c : Char) (hc : c ∉ quoteMarks) : (l.text ++ back).head? ≠ some c := by
    rintro ⟨⟩
    exact hc l.mark_mem_quoteMarks
  rw [viewFrom_append hzone (hmark '/' (by decide)) (hmark '*' (by decide)), viewFrom_text h]
  rfl

end Literal

/-! ## Lines with a literal -/

/-- A bracket that closes a list closes it whatever follows. -/
theorem closeBracket?_of_some {depth : Nat} {quoted : Bool} {s inner after : Text}
    (h : closeBracket? depth quoted s = some (inner, after)) (rest : Text) :
    closeBracket? depth quoted (s ++ rest) = some (inner, after ++ rest) := by
  fun_induction closeBracket? depth quoted s generalizing inner after with
  | case1 => cases h
  | case2 depth c s ih =>
    obtain ⟨⟨i, a⟩, hfound, heq⟩ := Option.map_eq_some_iff.mp h
    cases heq
    rw [List.cons_append, List.cons_append, closeBracket?, ih hfound]
    rfl
  | case3 depth c s hescape ih =>
    obtain ⟨⟨i, a⟩, hfound, heq⟩ := Option.map_eq_some_iff.mp h
    cases heq
    rw [List.cons_append, closeBracket?, ih hfound]
    · rfl
    · -- What follows does not turn the last backslash into an escape: one was there already.
      intro d more hc hmore
      cases s with
      | nil => cases hfound
      | cons e s =>
        cases hmore
        exact hescape d s hc rfl
  | case4 s =>
    cases h
    rfl
  | case5 depth c s hclose ih =>
    obtain ⟨⟨i, a⟩, hfound, heq⟩ := Option.map_eq_some_iff.mp h
    cases heq
    rw [List.cons_append, closeBracket?, ih hfound]
    · rfl
    · exact hclose

/-- Lists that are closed in front of a quote mark are peeled off whatever follows. -/
theorem peelLists_append {q : Char} (hq : q ∈ quoteMarks) {s : Text} {attributes : List Attribute}
    {code : Text} (h : peelLists s = (attributes, code)) (hopen : code.head? ≠ some '[')
    (rest : Text) : peelLists (s ++ q :: rest) = (attributes, code ++ q :: rest) := by
  fun_induction peelLists s generalizing attributes code with
  | case1 inside _ =>
    obtain ⟨-, rfl⟩ := Prod.mk.inj h
    exact absurd rfl hopen
  | case2 inside inner after hfound others left hpeeled ih =>
    obtain ⟨rfl, rfl⟩ := Prod.mk.inj h
    have hmore := peelLists_of_list (closeBracket?_of_some hfound (q :: rest))
    rw [List.cons_append, hmore, trimStart_append_mark hq, ih hpeeled hopen]
  | case3 s hs =>
    obtain ⟨rfl, rfl⟩ := Prod.mk.inj h
    refine peelLists_of_ne ?_
    cases s with
    | nil =>
      rintro ⟨⟩
      exact not_mem_of_mem_quoteMarks hq (by decide)
    | cons c s => exact hopen

/-- A declaration goes on at the end of a text. -/
def endsInHead (code : Text) : Bool :=
  classIsOpen code || ((ClassHead.find? code).isNone && methodIsOpen code)

namespace ScanState

variable {s : ScanState} {old new : Literal} {code : Text}

/-- Code has the same effect if the same class is declared in it, or none and the same method. -/
theorem addCode_congr {other : Text} (hcode : code ≠ []) (hother : other ≠ [])
    (hclass : ClassHead.find? code = ClassHead.find? other)
    (hmethod : ClassHead.find? code = none → MethodHead.read? code = MethodHead.read? other)
    (s : ScanState) (file : Path) (line : Nat) :
    s.addCode file line code = s.addCode file line other := by
  rw [addCode, addCode, if_neg (by simpa using hcode), if_neg (by simpa using hother)]
  cases hfind : ClassHead.find? code with
  | some head => rw [← hclass, hfind]
  | none => rw [← hclass, hfind, hmethod hfind]

/-- The declarations of a line do not depend on what its literal holds. -/
theorem addCode_of_literals (hold : old.IsInert code) (hnew : new.IsInert code)
    (hhead : endsInHead code = false) (rest : Text) (s : ScanState) (file : Path) (line : Nat) :
    s.addCode file line (code ++ (old.text ++ rest)) =
      s.addCode file line (code ++ (new.text ++ rest)) := by
  have hne (l : Literal) : code ++ (l.text ++ rest) ≠ [] := by simp [l.text_ne_nil]
  rw [endsInHead, Bool.or_eq_false_iff] at hhead
  obtain ⟨hopen, hmethod⟩ := hhead
  have hclass := (Literal.find?_text hold hopen rest).trans (Literal.find?_text hnew hopen rest).symm
  refine addCode_congr (hne old) (hne new) hclass (fun hnone => ?_) s file line
  rw [Literal.find?_text hold hopen, Option.or_eq_none_iff] at hnone
  rw [hnone.1, Option.isNone_none, Bool.true_and] at hmethod
  have hread (l : Literal) :
      MethodHead.read? (code ++ (l.text ++ rest)) = MethodHead.read? code :=
    MethodHead.read?_append l.mark_mem_quoteMarks hmethod _
  rw [hread, hread]

/-- The declarations of a line with a literal are those behind the attribute lists. -/
theorem declarations_text (l : Literal) {front : Text} {attributes : List Attribute}
    (hsplit : splitAttributes front = (attributes, code)) (hlists : code.head? ≠ some '[')
    (rest : Text) (s : ScanState) (file : Path) (line : Nat) :
    s.declarations file line (front ++ (l.text ++ rest)) =
      (s.addAttributes line attributes).addCode file line (code ++ (l.text ++ rest)) := by
  have hmark := l.mark_mem_quoteMarks
  have hblank : Text.trim (front ++ (l.text ++ rest)) ≠ [] :=
    @Text.trim_ne_nil _ l.mark (by simp [Literal.text]) (isBlank_of_mem_quoteMarks hmark)
  have hpeeled : splitAttributes (front ++ (l.text ++ rest)) =
      (attributes, code ++ (l.text ++ rest)) := by
    show peelLists (Text.trimStart (front ++ l.mark :: ((l.body ++ [l.mark]) ++ rest))) = _
    rw [trimStart_append_mark hmark]
    exact peelLists_append hmark hsplit hlists _
  rw [declarations, if_neg (by simpa using hblank), hpeeled]

/-- Lines with different literals at the same place do the same to a state. -/
theorem addLine_of_literals {isOpen : Bool} (hcomments : s.comments = (isOpen, isOpen))
    {front : Text} (hzone : zoneAfter (.start isOpen) front = some .code)
    (hcode : (splitAttributes (withoutComments front isOpen).1).2 = code)
    (hlists : code.head? ≠ some '[') (hhead : endsInHead code = false)
    (hold : old.IsInert code) (hnew : new.IsInert code) (back : Text) (file : Path) (line : Nat) :
    s.addLine file line (front ++ (old.text ++ back)) =
      s.addLine file line (front ++ (new.text ++ back)) := by
  rw [withoutComments, withoutCommentsFrom_eq] at hcode
  have hsplit : splitAttributes (viewFrom true (.start isOpen) front).1 =
      ((splitAttributes (viewFrom true (.start isOpen) front).1).1, code) := by
    rw [← hcode]
  -- What a line does, taken apart: braces in front and behind, attributes, and declarations.
  have hline (l : Literal) (hl : l.IsInert code) :
      s.addLine file line (front ++ (l.text ++ back)) =
        (viewFrom false .code back).1.foldl brace
          ((viewFrom false (.start isOpen) front).1.foldl brace
            ((addAttributes
              { s with
                inComment := (viewFrom true .code back).2
                inCodeComment := (viewFrom true .code back).2 }
              line (splitAttributes (viewFrom true (.start isOpen) front).1).1).addCode file line
                (code ++ (l.text ++ (viewFrom true .code back).1)))) := by
    rw [addLine_of_comments hcomments, Literal.viewFrom_line hl hzone, Literal.viewFrom_line hl hzone,
      l.shown_true]
    dsimp only
    rw [declarations_text l hsplit hlists, List.foldl_append, List.foldl_append,
      foldl_brace_of_avoids (Literal.avoids_shown hl)]
  rw [hline old hold, hline new hnew, addCode_of_literals hold hnew hhead]

end ScanState

/-! ## Sources with a literal -/

/-- A comment is open at the beginning of the last line of a text. -/
def inCommentBefore (before : Text) : Bool := openAfter false (Text.fullLines before)

/-- The code on the last line of a text, behind the attribute lists of this line. -/
def codeBefore (before : Text) : Text :=
  (splitAttributes (withoutComments (Text.openLine before) (inCommentBefore before)).1).2

/-- What follows a text stands in code, behind the attribute lists of its line. -/
structure StandsInCode (before : Text) : Prop where
  zone : zoneAfter (.start (inCommentBefore before)) (Text.openLine before) = some .code
  listsClosed : (codeBefore before).head? ≠ some '['

/-- **What a literal holds makes no difference** in code behind the attribute lists of its line,
unless it stands within the declaration of a class or a method, declares a class, or is a character
that is a brace or a double quote. Any two sources with such literals in the place of each other
have the same classes: the same methods, attributes and lines. -/
theorem classesOf_of_literals {before : Text} (hcode : StandsInCode before)
    (hhead : endsInHead (codeBefore before) = false) {old new : Literal}
    (hold : old.IsInert (codeBefore before)) (hnew : new.IsInert (codeBefore before))
    (after : Text) (file : Path) :
    classesOf (before ++ (old.text ++ after)) file =
      classesOf (before ++ (new.text ++ after)) file := by
  obtain ⟨back, below, hlines⟩ := Text.exists_lines_append before after
  have hcomments := ScanState.comments_after (s := {}) rfl file 1 (Text.fullLines before)
  have hscan (l : Literal) : scan file (Text.lines (before ++ (l.text ++ after))) =
      ((ScanState.after file {} 1 (Text.fullLines before)).addLine file
        (1 + (Text.fullLines before).length) (Text.openLine before ++ (l.text ++ back))).after file
          (1 + (Text.fullLines before).length + 1) below := by
    rw [hlines l.text l.isLine_text l.text_ne_nil]
    show ScanState.after file {} 1 _ = _
    rw [ScanState.after_append, ScanState.after_cons]
  have hline := ScanState.addLine_of_literals hcomments hcode.zone rfl hcode.listsClosed hhead hold
    hnew back file (1 + (Text.fullLines before).length)
  rw [classesOf, classesOf, hscan, hscan, hline]

/-- A class with a method behind its attribute, up to what this method returns. -/
def returningFront : Text :=
  "public class A \x7b\n[HttpGet] public string Get() \x7b return ".toList

/-- What follows what the method returns. -/
def returningBack : Text := "; \x7d\n\x7d\n".toList

/-- A string of signs that mean something in code. -/
def signs : Literal := .string "/* \x7d class".toList (by decide) (by decide)

/-- A slash as a character. -/
def slash : Literal := .character ['/'] (by decide) (by decide)

/-- It makes no difference which of these literals the method returns. -/
theorem classesOf_of_literals_returned :
    StandsInCode returningFront ∧ endsInHead (codeBefore returningFront) = false ∧
      signs.IsInert (codeBefore returningFront) ∧ slash.IsInert (codeBefore returningFront) ∧
      classesOf (returningFront ++ (signs.text ++ returningBack)) ⟨.relative, ["A.cs".toList]⟩ =
        classesOf (returningFront ++ (slash.text ++ returningBack))
          ⟨.relative, ["A.cs".toList]⟩ := by
  have hline : Text.openLine returningFront =
      "[HttpGet] public string Get() \x7b return ".toList := by
    unfold returningFront
    -- The characters of a string are slow to evaluate, so they are written out.
    repeat rw [String.toList_ofList]
    decide +kernel
  have hcomment : inCommentBefore returningFront = false := by
    unfold returningFront
    rw [String.toList_ofList]
    decide +kernel
  have hcode : codeBefore returningFront = "public string Get() \x7b return ".toList := by
    unfold returningFront
    repeat rw [String.toList_ofList]
    decide +kernel
  have hstands : StandsInCode returningFront :=
    ⟨by rw [hline, hcomment, String.toList_ofList]; decide,
      by rw [hcode, String.toList_ofList]; decide⟩
  have hhead : endsInHead (codeBefore returningFront) = false := by
    rw [hcode, String.toList_ofList]
    decide
  have hsigns : signs.IsInert (codeBefore returningFront) := .inr (by decide)
  have hslash : slash.IsInert (codeBefore returningFront) :=
    show Avoids ['/'] ['"', '{', '}'] by decide
  exact ⟨hstands, hhead, hsigns, hslash,
    classesOf_of_literals hstands hhead hsigns hslash returningBack _⟩

/-! ## Literals that are taken for code -/

namespace ScanState

/-- The effect of a line of code without comments and attributes. -/
theorem addLine_of_visible {s : ScanState} (h : s.OutsideComments) {text code visible : Text}
    (hvisible : withoutComments text false = (visible, false))
    (hcode : bareCode text false = (code, false))
    (hhead : ∃ c rest, visible = c :: rest ∧ Text.isBlank c = false ∧ c ≠ '[')
    (file : Path) (line : Nat) :
    s.addLine file line text = code.foldl brace (s.addCode file line visible) := by
  obtain ⟨c, rest, rfl, hblank, hopen⟩ := hhead
  have hne : Text.trim (c :: rest) ≠ [] := Text.trim_cons_ne_nil hblank rest
  rw [addLine_eq h hvisible hcode, declarations, if_neg (by simpa using hne),
    splitAttributes_of_ne hblank hopen]
  rfl

end ScanState

/-- The class of the sources below, at its file. -/
def classA (methods : List Action) : ClassDecl :=
  ⟨"A".toList, ⟨.relative, ["A.cs".toList]⟩, 1, [], [], methods⟩

/-- The first line of the class. -/
def lineA : Text := "public class A \x7b".toList

/-- The class has a method that returns what follows. -/
def returnFront : Text := lineA ++ "\npublic string Get() => ".toList

/-- What follows what the method returns. -/
def returnBack : Text := ";\n\x7d\n".toList

/-- A string that looks like the declaration of a class. -/
def classList : Literal := .string "class list".toList (by decide) (by decide)

/-- A string that looks like no declaration. -/
def otherList : Literal := .string "other list".toList (by decide) (by decide)

/-- The class has a character, which follows. -/
def markFront : Text := lineA ++ "\nchar mark = ".toList

/-- What follows the character: a method. -/
def markBack : Text := ";\npublic void Get() \x7b \x7d\n\x7d\n".toList

/-- A brace as a character. -/
def openBrace : Literal := .character ['{'] (by decide) (by decide)

/-- A letter as a character. -/
def letter : Literal := .character ['x'] (by decide) (by decide)

/-- A string that looks like the declaration of a class hides the method that returns it and makes
up a class; a brace between single quotes hides the methods behind it. -/
theorem classesOf_of_telling_literals :
    (classesOf (returnFront ++ (classList.text ++ returnBack)) (classA []).file =
        [classA [], ⟨"list".toList, (classA []).file, 2, [], [], []⟩] ∧
      classesOf (returnFront ++ (otherList.text ++ returnBack)) (classA []).file =
        [classA [⟨"Get".toList, 2, true, []⟩]]) ∧
      classesOf (markFront ++ (openBrace.text ++ markBack)) (classA []).file = [classA []] ∧
      classesOf (markFront ++ (letter.text ++ markBack)) (classA []).file =
        [classA [⟨"Get".toList, 3, true, []⟩]] := by
  have hfirst : ScanState.addLine (classA []).file {} 1 lineA =
      { classes := [classA []], bodies := [⟨0, 1⟩], depth := 1 } := by
    rw [ScanState.addLine_of_visible ⟨rfl, rfl⟩ rfl rfl ⟨_, _, rfl, by decide, by decide⟩]
    rfl
  have hrun {source second : Text} {below : List Text}
      (hlines : Text.lines source = lineA :: second :: below) :
      classesOf source (classA []).file =
        ((ScanState.addLine (classA []).file
          { classes := [classA []], bodies := [⟨0, 1⟩], depth := 1 } 2 second).after
            (classA []).file 3 below).classes := by
    rw [classesOf, hlines]
    show (ScanState.after (classA []).file {} 1 _).classes = _
    rw [ScanState.after_cons, hfirst, ScanState.after_cons]
  refine ⟨⟨?_, ?_⟩, ?_, ?_⟩
  · have hlines : Text.lines (returnFront ++ (classList.text ++ returnBack)) =
        [lineA, "public string Get() => \"class list\";".toList, ['}']] := by
      decide +kernel
    rw [hrun hlines, ScanState.addLine_of_visible ⟨rfl, rfl⟩ rfl rfl
      ⟨_, _, rfl, by decide, by decide⟩, ScanState.after_cons,
      ScanState.addLine_brace ⟨rfl, rfl⟩ (.inr rfl)]
    rfl
  · have hlines : Text.lines (returnFront ++ (otherList.text ++ returnBack)) =
        [lineA, "public string Get() => \"other list\";".toList, ['}']] := by
      decide +kernel
    rw [hrun hlines, ScanState.addLine_of_visible ⟨rfl, rfl⟩ rfl rfl
      ⟨_, _, rfl, by decide, by decide⟩, ScanState.after_cons,
      ScanState.addLine_brace ⟨rfl, rfl⟩ (.inr rfl)]
    rfl
  · have hlines : Text.lines (markFront ++ (openBrace.text ++ markBack)) =
        [lineA, "char mark = '\x7b';".toList, "public void Get() \x7b \x7d".toList, ['}']] := by
      decide +kernel
    rw [hrun hlines, ScanState.addLine_of_visible ⟨rfl, rfl⟩ rfl rfl
      ⟨_, _, rfl, by decide, by decide⟩, ScanState.after_cons,
      ScanState.addLine_of_visible ⟨rfl, rfl⟩ rfl rfl ⟨_, _, rfl, by decide, by decide⟩,
      ScanState.after_cons, ScanState.addLine_brace ⟨rfl, rfl⟩ (.inr rfl)]
    rfl
  · have hlines : Text.lines (markFront ++ (letter.text ++ markBack)) =
        [lineA, "char mark = 'x';".toList, "public void Get() \x7b \x7d".toList, ['}']] := by
      decide +kernel
    rw [hrun hlines, ScanState.addLine_of_visible ⟨rfl, rfl⟩ rfl rfl
      ⟨_, _, rfl, by decide, by decide⟩, ScanState.after_cons,
      ScanState.addLine_of_visible ⟨rfl, rfl⟩ rfl rfl ⟨_, _, rfl, by decide, by decide⟩,
      ScanState.after_cons, ScanState.addLine_brace ⟨rfl, rfl⟩ (.inr rfl)]
    rfl

end Controllers

end RouteAtlas
