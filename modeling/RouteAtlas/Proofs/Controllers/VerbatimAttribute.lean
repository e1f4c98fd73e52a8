import RouteAtlas.Proofs.Controllers.AttributeList
import RouteAtlas.Proofs.Controllers.Verbatim

/-!
# Attributes with a verbatim template

The scan of a line takes every backslash in a string for an escape, and it looks for a template that
is given by name in the middle of strings as well. Neither matters for a template that is written as
an ordinary string. One that is written as a verbatim string is read as it was written exactly if
its backslashes come in pairs in front of quotes and at its end, and if it names no template of its
own (`splitAttributes_verbatim`).

If a quote is taken along by a backslash, the scan takes code for strings and strings for code from
there on. It cannot stop right behind the list then, since that is in the middle of a string for it
(`quotedAfter`).
-/

namespace RouteAtlas.Controllers

/-! ## Where strings are open -/

/-- A string is open behind a text, if one was or was not open in front of it, for a scan that takes
backslashes in strings for escapes. -/
def quotedAfter : (quoted : Bool) → Text → Bool
  | quoted, [] => quoted
  | true, '\\' :: _ :: rest => quotedAfter true rest
  | true, c :: rest => quotedAfter (c != '"') rest
  | false, c :: rest => quotedAfter (c == '"') rest

theorem quotedAfter_string_cons {c : Char} (h : c ≠ '\\') (rest : Text) :
    quotedAfter true (c :: rest) = quotedAfter (c != '"') rest := by
  rw [quotedAfter]
  rintro d rest' rfl -
  exact h rfl

theorem quotedAfter_escape (c : Char) (rest : Text) :
    quotedAfter true ('\\' :: c :: rest) = quotedAfter true rest := rfl

theorem quotedAfter_code_cons (c : Char) (rest : Text) :
    quotedAfter false (c :: rest) = quotedAfter (c == '"') rest := by
  rw [quotedAfter]

/-- Where no string is open, the scan goes on as from the beginning. -/
theorem quotedAfter_append {quoted : Bool} {front : Text} (h : quotedAfter quoted front = false)
    (rest : Text) : quotedAfter quoted (front ++ rest) = quotedAfter false rest := by
  fun_induction quotedAfter quoted front with
  | case1 quoted => rw [h, List.nil_append]
  | case2 c front ih => rw [List.cons_append, List.cons_append, quotedAfter_escape, ih h]
  | case3 c front hescape ih =>
    have hc : c ≠ '\\' := by
      rintro rfl
      cases front with
      | nil => cases h
      | cons d front => exact hescape d front rfl rfl
    rw [List.cons_append, quotedAfter_string_cons hc, ih h]
  | case4 c front ih => rw [List.cons_append, quotedAfter_code_cons, ih h]

/-- Without quotes, no string is opened. -/
theorem quotedAfter_of_notMem {s : Text} (h : '"' ∉ s) : quotedAfter false s = false := by
  induction s with
  | nil => rfl
  | cons c s ih =>
    rw [List.mem_cons, not_or] at h
    rw [quotedAfter_code_cons, beq_eq_false_iff_ne.mpr (Ne.symm h.1), ih h.2]

/-- Without quotes and backslashes, no string is closed. -/
theorem quotedAfter_of_avoids {s : Text} (h : Avoids s ['"', '\\']) : quotedAfter true s = true := by
  induction s with
  | nil => rfl
  | cons c s ih =>
    rw [avoids_cons] at h
    obtain ⟨hquote, hbackslash⟩ : c ≠ '"' ∧ c ≠ '\\' := by simpa using h.1
    rw [quotedAfter_string_cons hbackslash, bne_iff_ne.mpr hquote, ih h.2]

/-- A list is closed where no string is open. -/
theorem exists_of_closeBracket? {depth : Nat} {quoted : Bool} {s inner after : Text}
    (h : closeBracket? depth quoted s = some (inner, after)) :
    s = inner ++ ']' :: after ∧ quotedAfter quoted inner = false := by
  fun_induction closeBracket? depth quoted s generalizing inner after with
  | case1 => cases h
  | case2 depth c s ih =>
    obtain ⟨⟨i, a⟩, hfound, heq⟩ := Option.map_eq_some_iff.mp h
    cases heq
    obtain ⟨hs, hi⟩ := ih hfound
    exact ⟨by rw [hs]; rfl, by rw [quotedAfter_escape, hi]⟩
  | case3 depth c s hescape ih =>
    obtain ⟨⟨i, a⟩, hfound, heq⟩ := Option.map_eq_some_iff.mp h
    cases heq
    obtain ⟨hs, hi⟩ := ih hfound
    -- there is the bracket behind it at least, which a backslash would take along
    have hc : c ≠ '\\' := by
      rintro rfl
      obtain ⟨d, rest, hcons⟩ : ∃ d rest, s = d :: rest := by
        rw [hs]
        cases i with
        | nil => exact ⟨_, _, rfl⟩
        | cons d i => exact ⟨_, _, rfl⟩
      exact hescape d rest rfl hcons
    exact ⟨by rw [hs]; rfl, by rw [quotedAfter_string_cons hc, hi]⟩
  | case4 s =>
    cases h
    exact ⟨rfl, rfl⟩
  | case5 depth c s hclose ih =>
    obtain ⟨⟨i, a⟩, hfound, heq⟩ := Option.map_eq_some_iff.mp h
    cases heq
    obtain ⟨hs, hi⟩ := ih hfound
    exact ⟨by rw [hs]; rfl, by rw [quotedAfter_code_cons, hi]⟩

/-- **Lists are peeled off** up to a place where no string is open. -/
theorem exists_of_peelLists (s : Text) :
    ∃ front, s = front ++ (peelLists s).2 ∧ quotedAfter false front = false := by
  induction s using peelLists.induct with
  | case1 inside hnone =>
    rw [peelLists_of_none hnone]
    exact ⟨[], rfl, rfl⟩
  | case2 inside inner after hfound _ _ _ ih =>
    obtain ⟨hinside, hinner⟩ := exists_of_closeBracket? hfound
    obtain ⟨blanks, hblanks, hafter⟩ := exists_blanks after
    obtain ⟨front, hfront, hclosed⟩ := ih
    rw [peelLists_of_list hfound]
    refine ⟨'[' :: (inner ++ ']' :: (blanks ++ front)), ?_, ?_⟩
    · generalize peelLists (Text.trimStart after) = peeled at hfront ⊢
      rw [hinside, hafter, hfront]
      simp
    · have hlist : quotedAfter false ('[' :: inner) = false := hinner
      have hgap : quotedAfter false (']' :: blanks) = false := by
        refine quotedAfter_of_notMem ?_
        simp [hblanks.quote_notMem]
      rw [← List.cons_append, quotedAfter_append hlist, ← List.cons_append, quotedAfter_append hgap,
        hclosed]
  | case3 s hs =>
    have hcode : s.head? ≠ some '[' := by
      intro hopen
      obtain ⟨inside, rfl⟩ := List.head?_eq_some_iff.mp hopen
      exact hs inside rfl
    rw [peelLists_of_ne hcode]
    exact ⟨[], rfl, rfl⟩

/-- Doubled quotes outside of a string open and close one each. -/
theorem quotedAfter_code_quotesDoubled (t : Text) : quotedAfter false (quotesDoubled t) = false := by
  induction t with
  | nil => rfl
  | cons c t ih =>
    by_cases hquote : c = '"'
    · subst hquote
      have hopen : ('"' == '"') = true := rfl
      have hclose : ('"' != '"') = false := rfl
      rw [quotesDoubled_cons_quote, quotedAfter_code_cons, hopen,
        quotedAfter_string_cons (by decide), hclose, ih]
    · rw [quotesDoubled_cons_of_ne hquote, quotedAfter_code_cons, beq_eq_false_iff_ne.mpr hquote, ih]

/-- A quote that is taken along by a backslash leaves a string open behind a verbatim string. -/
theorem quotedAfter_quotesDoubled {t : Text} (h : keepsQuotes t = false) (rest : Text) :
    quotedAfter true (quotesDoubled t ++ '"' :: rest) = quotedAfter true rest := by
  fun_induction keepsQuotes t with
  | case1 => cases h
  | case2 c t ih =>
    rw [quotesDoubled_cons_of_ne (by decide)]
    by_cases hquote : c = '"'
    · subst hquote
      -- the first of both quotes is taken along, and the second closes the string
      have hclose : ('"' != '"') = false := rfl
      rw [quotesDoubled_cons_quote, List.cons_append, List.cons_append, List.cons_append,
        quotedAfter_escape, quotedAfter_string_cons (by decide), hclose,
        quotedAfter_append (quotedAfter_code_quotesDoubled t), quotedAfter_code_cons]
      rfl
    · rw [bne_iff_ne.mpr hquote, Bool.true_and] at h
      rw [quotesDoubled_cons_of_ne hquote, List.cons_append, List.cons_append, quotedAfter_escape,
        ih h]
  | case3 => rfl
  | case4 c t hescape hend ih =>
    have hbackslash : c ≠ '\\' := by
      rintro rfl
      cases t with
      | nil => exact hend rfl rfl
      | cons d t => exact hescape d t rfl rfl
    by_cases hquote : c = '"'
    · subst hquote
      have hclose : ('"' != '"') = false := rfl
      have hopen : ('"' == '"') = true := rfl
      rw [quotesDoubled_cons_quote, List.cons_append, List.cons_append,
        quotedAfter_string_cons (by decide), hclose, quotedAfter_code_cons, hopen, ih h]
    · rw [quotesDoubled_cons_of_ne hquote, List.cons_append, quotedAfter_string_cons hbackslash,
        bne_iff_ne.mpr hquote, ih h]

/-! ## The line -/

/-- A line with an attribute whose template is written as a verbatim string, and a declaration
behind it. -/
def verbatimLine (name : Word) (t gap declaration : Text) : Text :=
  '[' :: (name.text ++ '(' :: (verbatimLiteral t ++ ')' :: ']' :: (gap ++ declaration)))

section

variable {name : Word} {t gap declaration : Text}

/-- What is read if the strings of the line are found where they are. -/
theorem splitAttributes_verbatimLine (hname : ¬ attributeEnding <:+ name.text)
    (hgap : AllBlank gap) (hdecl : BeginsCode declaration) (h : StaysInString (quotesDoubled t)) :
    splitAttributes (verbatimLine name t gap declaration) =
      ([⟨name.text, template? (verbatimLiteral t)⟩], declaration) := by
  let form : AttributeForm := ⟨name, hname, some ⟨verbatimLiteral t, isSealed_verbatimLiteral h⟩⟩
  have htext : verbatimLine name t gap declaration =
      '[' :: (listInside [form] ++ ']' :: (gap ++ declaration)) := by
    rw [listInside_singleton]
    simp [form, verbatimLine, AttributeForm.text, AttributeForm.arguments]
  have hstart : Text.trimStart (gap ++ declaration) = declaration :=
    trimStart_append hgap fun c hc => (hdecl c hc).1
  rw [htext, splitAttributes, Text.trimStart_cons (by decide), peelLists_listInside, hstart,
    hdecl.peelLists]
  rfl

/-- If a quote is taken along by a backslash, what is left is not the declaration: a string is open
in front of it. -/
theorem splitAttributes_verbatimLine_ne (hgap : AllBlank gap) (h : keepsQuotes t = false) :
    (splitAttributes (verbatimLine name t gap declaration)).2 ≠ declaration := by
  intro hrest
  obtain ⟨front, hsplit, hclosed⟩ := exists_of_peelLists (verbatimLine name t gap declaration)
  rw [splitAttributes, verbatimLine, Text.trimStart_cons (by decide), ← verbatimLine] at hrest
  have hline : verbatimLine name t gap declaration =
      ('[' :: (name.text ++ ['(', '@'])) ++
        '"' :: (quotesDoubled t ++ '"' :: (')' :: ']' :: gap)) ++ declaration := by
    simp [verbatimLine, verbatimLiteral]
  rw [hrest, hline] at hsplit
  have hfront := List.append_cancel_right hsplit
  have hopening : quotedAfter false ('[' :: (name.text ++ ['(', '@'])) = false := by
    have hword : Avoids name.text ['"'] := name.avoids (by decide)
    have hquote : '"' ∉ name.text := fun h => hword '"' h List.mem_cons_self
    exact quotedAfter_of_notMem (by simp [hquote])
  have hbehind : quotedAfter true (')' :: ']' :: gap) = true := by
    have hblanks : Avoids gap ['"', '\\'] := avoids_of_forall hgap (by decide)
    exact quotedAfter_of_avoids (avoids_cons.mpr ⟨by decide, avoids_cons.mpr ⟨by decide, hblanks⟩⟩)
  have hopen : quotedAfter false front = true := by
    rw [← hfront, quotedAfter_append hopening, quotedAfter_code_cons]
    show quotedAfter true _ = true
    rw [quotedAfter_quotesDoubled h, hbehind]
  rw [hopen] at hclosed
  cases hclosed

/-- **A verbatim template is read as it was written**, and what is left is the declaration behind
the list, if and only if backslashes come in pairs in front of its quotes and at its end, and it
names no template of its own. -/
theorem splitAttributes_verbatim (hname : ¬ attributeEnding <:+ name.text) (hline : '\n' ∉ t)
    (hgap : AllBlank gap) (hdecl : BeginsCode declaration) :
    splitAttributes (verbatimLine name t gap declaration) =
        ([⟨name.text, some t⟩], declaration) ↔
      BackslashesPaired t ∧ ¬ NamesTemplate t := by
  rw [← keepsQuotes_iff]
  cases hkeeps : keepsQuotes t with
  | false =>
    refine iff_of_false ?_ (by simp)
    intro hsplit
    exact splitAttributes_verbatimLine_ne hgap hkeeps (by rw [hsplit])
  | true =>
    have hstays := staysInString_quotesDoubled hline hkeeps
    rw [splitAttributes_verbatimLine hname hgap hdecl hstays, ← template?_verbatimLiteral_iff hstays]
    simp

end

/-- The name of the attribute in the examples. -/
def httpGet : Word := ⟨"HttpGet".toList, by decide, List.all_eq_true.mp (by decide)⟩

/-- A template with pairs of backslashes in front of a quote and at its end, with a bracket, a comma
and a parenthesis behind the quote, and with a name for a template but no quote behind it. -/
theorem splitAttributes_verbatim_crowded :
    let t : Text := "a\\\\\"],(template: b\\\\".toList
    let declaration : Text := "public string Get()".toList
    (¬ attributeEnding <:+ httpGet.text ∧ '\n' ∉ t ∧ AllBlank [' '] ∧ BeginsCode declaration) ∧
      (BackslashesPaired t ∧ ¬ NamesTemplate t) ∧
      splitAttributes
          "[HttpGet(@\"a\\\\\"\"],(template: b\\\\\")] public string Get()".toList =
        ([⟨httpGet.text, some t⟩], declaration) := by
  intro t declaration
  have hname : ¬ attributeEnding <:+ httpGet.text := by decide
  have hline : '\n' ∉ t := by decide
  have hgap : AllBlank [' '] := by decide
  have hdecl : BeginsCode declaration := by decide
  have hkeeps : keepsQuotes t = true := by decide
  have hnames : ¬ NamesTemplate t :=
    (template?_verbatimLiteral_iff (staysInString_quotesDoubled hline hkeeps)).mp (by decide)
  have hpaired : BackslashesPaired t := keepsQuotes_iff.mp hkeeps
  exact ⟨⟨hname, hline, hgap, hdecl⟩, ⟨hpaired, hnames⟩,
    (splitAttributes_verbatim hname hline hgap hdecl).mpr ⟨hpaired, hnames⟩⟩

/-- With a backslash at its end, a template hides the end of the list, and all of the line is taken
for code. A template that names a template is replaced by the empty text. -/
theorem splitAttributes_verbatim_misread :
    let declaration : Text := "public string Get()".toList
    let files : Text := "files\\".toList
    let named : Text := "template: \"x\"".toList
    (splitAttributes (verbatimLine httpGet files [' '] declaration) =
        ([], "[HttpGet(@\"files\\\")] public string Get()".toList) ∧
      splitAttributes (verbatimLine httpGet files [' '] declaration) ≠
        ([⟨httpGet.text, some files⟩], declaration)) ∧
    splitAttributes (verbatimLine httpGet named [' '] declaration) =
        ([⟨httpGet.text, some []⟩], declaration) ∧
      splitAttributes (verbatimLine httpGet named [' '] declaration) ≠
        ([⟨httpGet.text, some named⟩], declaration) := by
  intro declaration files named
  have hfiles : splitAttributes (verbatimLine httpGet files [' '] declaration) =
      ([], "[HttpGet(@\"files\\\")] public string Get()".toList) := by
    have hopen :
        closeBracket? 0 false "HttpGet(@\"files\\\")] public string Get()".toList = none := by
      decide
    show peelLists ('[' :: "HttpGet(@\"files\\\")] public string Get()".toList) = _
    rw [peelLists_of_none hopen]
    rfl
  have hnamed : splitAttributes (verbatimLine httpGet named [' '] declaration) =
      ([⟨httpGet.text, some []⟩], declaration) := by
    have hstays : StaysInString (quotesDoubled named) :=
      staysInString_quotesDoubled (by decide) (by decide)
    have hempty : template? (verbatimLiteral named) = some [] := by decide
    rw [splitAttributes_verbatimLine (by decide) (by decide) (by decide) hstays, hempty]
  rw [hfiles, hnamed]
  exact ⟨⟨rfl, by decide⟩, rfl, by decide⟩

end RouteAtlas.Controllers
