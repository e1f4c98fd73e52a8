import Mathlib.Data.List.TakeWhile
import RouteAtlas.Controllers.AttributeList
import RouteAtlas.Proofs.Controllers.Template

/-!
# Attributes that were written down

An attribute is written as its name, maybe with an argument in parentheses behind it. What is read
of it is its name and the template of that argument (`AttributeForm.read?_text`), and a list of
attributes with commas between them is taken apart where it was put together
(`attributesIn_listInside`), as long as brackets, commas and parentheses of the arguments stand in
strings: these do not count (`IsSealed`).

The attributes of an outline have their template as such an argument, if they have one, and stand on
lines of their own (`AttributeText.splitAttributes_line`).

A list is read in two passes. The first one looks for the bracket that closes it, and the second one
for the commas between its attributes; both have to know whether they are within a string, and they
count different brackets. That a piece of text is sealed means for each of them that the pass comes
out behind the piece as it went in (`SealsBrackets`, `SealsCommas`). Sealed pieces can be put one
behind the other, so that a whole list is sealed if its attributes are.
-/

namespace RouteAtlas.Controllers

/-! ## Brackets and commas -/

/-- A text in front of the first of two. -/
def before (s : Text) : Text × Text → Text × Text
  | (inner, after) => (s ++ inner, after)

/-- A text in front of the first part. -/
def beforeFirst (s : Text) : List Text → List Text
  | [] => [s]
  | first :: others => (s ++ first) :: others

/-- Putting a character in front of the first part is putting a text of one character there. -/
theorem onFirst_eq (c : Char) (parts : List Text) : onFirst c parts = beforeFirst [c] parts := by
  cases parts <;> rfl

/-- A text can be put in front of the first part in two steps. -/
theorem beforeFirst_append (s u : Text) (parts : List Text) :
    beforeFirst (s ++ u) parts = beforeFirst s (beforeFirst u parts) := by
  cases parts with
  | nil => rfl
  | cons first others => simp [beforeFirst]

theorem map_before_append (s u : Text) (found : Option (Text × Text)) :
    found.map (before (s ++ u)) = (found.map (before u)).map (before s) := by
  cases found with
  | none => rfl
  | some pair => simp [before]

/-- Brackets in a text do not count: each of them stands in a string. -/
def SealsBrackets (s : Text) : Prop :=
  ∀ depth rest,
    closeBracket? depth false (s ++ rest) = (closeBracket? depth false rest).map (before s)

/-- Commas and parentheses in a text do not count: each comma stands in a string or in parentheses,
and each parenthesis in a string or together with its other one. -/
def SealsCommas (s : Text) : Prop :=
  ∀ depth rest, commaParts depth false (s ++ rest) = beforeFirst s (commaParts depth false rest)

/-- Nothing in a text counts for a list of attributes. -/
structure IsSealed (s : Text) : Prop where
  brackets : SealsBrackets s
  commas : SealsCommas s

theorem sealsBrackets_nil : SealsBrackets [] := by
  intro depth rest
  cases hfound : closeBracket? depth false rest <;> simp [before, hfound]

/-- Pieces that are sealed are sealed one behind the other. -/
theorem SealsBrackets.append {s u : Text} (hs : SealsBrackets s) (hu : SealsBrackets u) :
    SealsBrackets (s ++ u) := by
  intro depth rest
  rw [List.append_assoc, hs, hu, ← map_before_append]

/-- A piece without quotes and brackets is sealed. -/
theorem sealsBrackets_of_avoids {s : Text} (h : Avoids s ['"', '[', ']']) : SealsBrackets s := by
  intro depth rest
  induction s with
  | nil => exact sealsBrackets_nil depth rest
  | cons c s ih =>
    rw [avoids_cons] at h
    obtain ⟨hquote, hopen, hclose⟩ : c ≠ '"' ∧ c ≠ '[' ∧ c ≠ ']' := by simpa using h.1
    rw [List.cons_append, closeBracket?]
    · rw [bracketDepth, if_neg hopen, if_neg hclose, beq_eq_false_iff_ne.mpr hquote, ih h.2,
        ← List.singleton_append, map_before_append]
      rfl
    · rintro -
      exact hclose

/-- Where brackets are looked for, a quote opens a string. -/
theorem closeBracket?_quote (depth : Nat) (rest : Text) :
    closeBracket? depth false ('"' :: rest) =
      (closeBracket? depth true rest).map (before ['"']) := by
  rw [closeBracket?]
  · rfl
  · rintro - h
    cases h

/-- In a string, a character goes by that is no backslash, and a quote closes the string. -/
theorem closeBracket?_string_cons {c : Char} (h : c ≠ '\\') (depth : Nat) (rest : Text) :
    closeBracket? depth true (c :: rest) =
      (closeBracket? depth (c != '"') rest).map (before [c]) := by
  rw [closeBracket?]
  · rfl
  · rintro d rest' rfl -
    exact h rfl

/-- In a string, a backslash takes the next character along. -/
theorem closeBracket?_escape (depth : Nat) (c : Char) (rest : Text) :
    closeBracket? depth true ('\\' :: c :: rest) =
      (closeBracket? depth true rest).map (before ['\\', c]) := by
  rw [closeBracket?]
  rfl

/-- A bracket in a string does not close a list. -/
theorem StaysInString.closeBracket? {s : Text} (h : StaysInString s) (depth : Nat) (rest : Text) :
    closeBracket? depth true (s ++ '"' :: rest) =
      (closeBracket? depth false rest).map (before (s ++ ['"'])) := by
  induction h with
  | nil => exact closeBracket?_string_cons (by decide) depth rest
  | @plain c s hquote hbackslash _ ih =>
    rw [List.cons_append, closeBracket?_string_cons hbackslash, bne_iff_ne.mpr hquote, ih,
      ← map_before_append]
    rfl
  | @escape c s _ _ ih =>
    rw [List.cons_append, List.cons_append, closeBracket?_escape, ih, ← map_before_append]
    rfl
  | @quotes s _ ih =>
    have hclosed : ('"' != '"') = false := rfl
    rw [List.cons_append, List.cons_append, closeBracket?_string_cons (by decide), hclosed,
      closeBracket?_quote, ih, ← map_before_append, ← map_before_append]
    rfl

theorem onFirst_ne_nil (c : Char) (parts : List Text) : onFirst c parts ≠ [] := by
  cases parts <;> simp [onFirst]

/-- There is always a part. -/
theorem commaParts_ne_nil (depth : Int) (quoted : Bool) (s : Text) :
    commaParts depth quoted s ≠ [] := by
  unfold commaParts
  split
  · simp
  · exact onFirst_ne_nil _ _
  · exact onFirst_ne_nil _ _
  · split
    · simp
    · exact onFirst_ne_nil _ _

theorem sealsCommas_nil : SealsCommas [] := by
  intro depth rest
  obtain ⟨first, others, hparts⟩ := List.exists_cons_of_ne_nil (commaParts_ne_nil depth false rest)
  simp [beforeFirst, hparts]

/-- Pieces that are sealed are sealed one behind the other. -/
theorem SealsCommas.append {s u : Text} (hs : SealsCommas s) (hu : SealsCommas u) :
    SealsCommas (s ++ u) := by
  intro depth rest
  rw [List.append_assoc, hs, hu, ← beforeFirst_append]

/-- A piece without quotes, commas and parentheses is sealed. -/
theorem sealsCommas_of_avoids {s : Text} (h : Avoids s ['"', ',', '(', ')']) : SealsCommas s := by
  intro depth rest
  induction s with
  | nil => exact sealsCommas_nil depth rest
  | cons c s ih =>
    rw [avoids_cons] at h
    obtain ⟨hquote, hcomma, hopen, hclose⟩ : c ≠ '"' ∧ c ≠ ',' ∧ c ≠ '(' ∧ c ≠ ')' := by
      simpa using h.1
    rw [List.cons_append, commaParts, if_neg (fun h => hcomma h.1), if_neg hopen, if_neg hclose,
      beq_eq_false_iff_ne.mpr hquote]
    dsimp only
    rw [ih h.2, onFirst_eq, ← beforeFirst_append]
    rfl

/-- Parentheses that belong together do not count. -/
theorem SealsCommas.inParentheses {s : Text} (h : SealsCommas s) :
    SealsCommas ('(' :: (s ++ [')'])) := by
  intro depth rest
  have hopen (rest : Text) :
      commaParts depth false ('(' :: rest) =
        beforeFirst ['('] (commaParts (depth + 1) false rest) := by
    rw [commaParts, if_neg (by simp), onFirst_eq]
    rfl
  have hclose : commaParts (depth + 1) false (')' :: rest) =
      beforeFirst [')'] (commaParts depth false rest) := by
    rw [commaParts, if_neg (by simp), onFirst_eq, if_neg (by decide), if_pos rfl, Int.add_sub_cancel]
    rfl
  rw [List.cons_append, List.append_assoc, List.singleton_append, hopen, h, hclose,
    ← beforeFirst_append, ← beforeFirst_append]
  rfl

/-- Where commas are looked for, a quote opens a string. -/
theorem commaParts_quote (depth : Int) (rest : Text) :
    commaParts depth false ('"' :: rest) = beforeFirst ['"'] (commaParts depth true rest) := by
  rw [commaParts, if_neg (by simp), onFirst_eq]
  rfl

/-- In a string, a character belongs to the part that was begun, and a quote ends the string. -/
theorem commaParts_string_cons {c : Char} (h : c ≠ '\\') (depth : Int) (rest : Text) :
    commaParts depth true (c :: rest) = beforeFirst [c] (commaParts depth (c != '"') rest) := by
  rw [commaParts]
  · exact onFirst_eq c _
  · rintro d rest' rfl -
    exact h rfl

/-- A backslash takes the next character along. -/
theorem commaParts_escape (depth : Int) (c : Char) (rest : Text) :
    commaParts depth true ('\\' :: c :: rest) =
      beforeFirst ['\\', c] (commaParts depth true rest) := by
  rw [commaParts, onFirst_eq, onFirst_eq, ← beforeFirst_append]
  rfl

/-- A comma in a string does not begin another part. -/
theorem StaysInString.commaParts {s : Text} (h : StaysInString s) (depth : Int) (rest : Text) :
    commaParts depth true (s ++ '"' :: rest) =
      beforeFirst (s ++ ['"']) (commaParts depth false rest) := by
  induction h with
  | nil => exact commaParts_string_cons (by decide) depth rest
  | @plain c s hquote hbackslash _ ih =>
    rw [List.cons_append, commaParts_string_cons hbackslash, bne_iff_ne.mpr hquote, ih,
      ← beforeFirst_append]
    rfl
  | @escape c s _ _ ih =>
    rw [List.cons_append, List.cons_append, commaParts_escape, ih, ← beforeFirst_append]
    rfl
  | @quotes s _ ih =>
    have hclosed : ('"' != '"') = false := rfl
    rw [List.cons_append, List.cons_append, commaParts_string_cons (by decide), hclosed,
      commaParts_quote, ih, ← beforeFirst_append, ← beforeFirst_append]
    rfl

/-- Nothing in a string counts. -/
theorem StaysInString.isSealed {s : Text} (h : StaysInString s) : IsSealed ('"' :: (s ++ ['"'])) := by
  have hsplit (rest : Text) : '"' :: (s ++ ['"']) ++ rest = '"' :: (s ++ '"' :: rest) := by
    rw [List.cons_append, List.append_assoc, List.singleton_append]
  constructor
  · intro depth rest
    rw [hsplit, closeBracket?_quote, h.closeBracket?, ← map_before_append]
    rfl
  · intro depth rest
    rw [hsplit, commaParts_quote, h.commaParts, ← beforeFirst_append]
    rfl

/-- A string literal is sealed, whatever its text. -/
theorem isSealed_stringLiteral (s : Text) : IsSealed (stringLiteral s) :=
  (staysInString_escaped s).isSealed

/-! ## One attribute -/

/-- An attribute in any form in which it can be written in a list: its name does not carry the
conventional ending, and nothing in its argument counts for the list. -/
structure AttributeForm where
  name : Word
  name_short : ¬ attributeEnding <:+ name.text
  argument : Option { s : Text // IsSealed s }

namespace AttributeForm

/-- What stands behind the name: the argument in parentheses, if there is one. -/
def arguments (a : AttributeForm) : Text :=
  match a.argument with
  | none => []
  | some s => '(' :: (s.val ++ [')'])

/-- The attribute as it is written. -/
def text (a : AttributeForm) : Text := a.name.text ++ a.arguments

/-- The attribute that is meant. -/
def meaning (a : AttributeForm) : Attribute :=
  ⟨a.name.text, a.argument.bind fun s => template? s.val⟩

variable (a : AttributeForm)

/-- The arguments of an attribute are sealed if the argument is: their own parentheses are a pair.
-/
theorem isSealed_arguments : IsSealed a.arguments := by
  unfold arguments
  cases a.argument with
  | none => exact ⟨sealsBrackets_nil, sealsCommas_nil⟩
  | some s =>
    have hopen : SealsBrackets ['('] := sealsBrackets_of_avoids (by decide)
    have hclose : SealsBrackets [')'] := sealsBrackets_of_avoids (by decide)
    exact ⟨hopen.append (s.property.brackets.append hclose), s.property.commas.inParentheses⟩

/-- A name holds no quotes, brackets or commas. -/
theorem isSealed_text : IsSealed a.text :=
  ⟨(sealsBrackets_of_avoids (a.name.avoids (by decide))).append a.isSealed_arguments.brackets,
    (sealsCommas_of_avoids (a.name.avoids (by decide))).append a.isSealed_arguments.commas⟩

/-- Behind the name there is nothing, or something that is no part of it: a parenthesis, or the
comma in front of the next attribute. -/
theorem head?_arguments {rest : Text} (hrest : ∀ c ∈ rest.head?, c = ',') :
    ∀ c ∈ (a.arguments ++ rest).head?, c = '(' ∨ c = ',' := by
  unfold arguments
  cases a.argument with
  | none => exact fun c hc => .inr (hrest c hc)
  | some s =>
    intro c hc
    exact .inl (by simpa using hc.symm)

/-- An attribute is no target. -/
theorem namesTarget_text {rest : Text} (hrest : ∀ c ∈ rest.head?, c = ',') :
    namesTarget (a.text ++ rest) = false := by
  have hhead := a.head?_arguments hrest
  have hends : EndsWord (a.arguments ++ rest) := by
    intro c hc
    rcases hhead c hc with rfl | rfl <;> decide
  unfold namesTarget text
  rw [List.append_assoc, a.name.trimStart_append]
  dsimp only
  rw [a.name.takeWhile_append hends, List.drop_left, if_neg (by simpa using a.name.text_ne)]
  generalize a.arguments ++ rest = behind at hhead
  cases behind with
  | nil => rfl
  | cons c behind =>
    rcases hhead c rfl with rfl | rfl <;> rfl

/-- The name ends where the arguments begin. -/
theorem qualifiedName_text : qualifiedName a.text = a.name.text := by
  have hname : ∀ c ∈ a.name.text, (Text.isWordChar c || c == '.') = true := by
    intro c hc
    rw [a.name.isWordChar c hc, Bool.true_or]
  unfold qualifiedName text
  rw [List.takeWhile_append_of_pos hname]
  unfold arguments
  split
  · simp
  · rw [List.takeWhile_cons, if_neg (by decide), List.append_nil]

/-- A name without dots is the last part of itself. -/
theorem unqualified?_name : unqualified? a.name.text = some a.name.text := by
  have hdots : Avoids a.name.text.reverse ['.'] := by
    intro c hc
    exact a.name.avoids (by decide) c (List.mem_reverse.mp hc)
  have hlast : a.name.text.reverse.takeWhile (· != '.') = a.name.text.reverse := by
    rw [List.takeWhile_eq_self_iff]
    intro c hc
    simpa using hdots c hc
  unfold unqualified?
  rw [hlast, List.reverse_reverse]
  dsimp only
  rw [Nat.sub_self, if_neg]
  simpa using a.name.text_ne

/-- The arguments are what stands between the first parenthesis and the last one. -/
theorem argumentsOf?_arguments :
    argumentsOf? a.arguments = some ((a.argument.map Subtype.val).getD []) := by
  unfold arguments
  cases a.argument with
  | none => rfl
  | some s =>
    have htrim : Text.trim ('(' :: (s.val ++ [')'])) = '(' :: (s.val ++ [')']) := by
      unfold Text.trim Text.trimWhile Text.dropEndWhile
      rw [List.dropWhile_cons, if_neg (by decide), List.reverse_cons, List.reverse_append,
        List.reverse_singleton, List.singleton_append, List.cons_append, List.dropWhile_cons,
        if_neg (by decide)]
      simp
    dsimp only
    rw [argumentsOf?, htrim]
    simp

/-- The names of forms do not end in the word that may be left out. -/
theorem shortAttributeName_name : shortAttributeName a.name.text = a.name.text := by
  unfold shortAttributeName
  rw [if_neg]
  intro h
  rw [Bool.and_eq_true, List.isSuffixOf_iff_suffix] at h
  exact a.name_short h.2

/-- What is read of an attribute that was written down is the attribute. -/
theorem read?_text : Attribute.read? a.text = some a.meaning := by
  have hstart : Text.trimStart a.text = a.text := a.name.trimStart_append _
  have hdrop : a.text.drop a.name.text.length = a.arguments := by
    rw [text, List.drop_left]
  unfold Attribute.read?
  rw [hstart]
  dsimp only
  rw [a.qualifiedName_text, a.unqualified?_name, hdrop]
  dsimp only [bind, Option.bind]
  rw [a.argumentsOf?_arguments]
  dsimp only [pure]
  rw [a.shortAttributeName_name, meaning]
  congr 2
  cases a.argument <;> rfl

/-- Blanks in front of an attribute are not read. -/
theorem read?_blank_text : Attribute.read? (' ' :: a.text) = some a.meaning := by
  have hstart : Text.trimStart (' ' :: a.text) = Text.trimStart a.text := rfl
  rw [← a.read?_text, Attribute.read?, Attribute.read?, hstart]

/-- An attribute is not blank, so no part of a list is passed over. -/
theorem trim_text_ne_nil : Text.trim a.text ≠ [] ∧ Text.trim (' ' :: a.text) ≠ [] := by
  obtain ⟨c, rest, hcons, hc⟩ := a.name.exists_cons
  have hblank : Text.trim (' ' :: a.text) = Text.trim a.text := rfl
  rw [hblank, and_self, text, hcons, List.cons_append]
  exact Text.trim_cons_ne_nil (Text.isBlank_of_isWordChar hc) _

end AttributeForm

/-! ## Lists of attributes -/

/-- Attributes as they are written between the brackets of a list. -/
def listInside (forms : List AttributeForm) : Text :=
  Text.joinWith ", ".toList (forms.map AttributeForm.text)

/-- Attributes stand with a comma and a blank between them. -/
theorem listInside_cons_cons (a b : AttributeForm) (forms : List AttributeForm) :
    listInside (a :: b :: forms) = a.text ++ ',' :: ' ' :: listInside (b :: forms) := by
  rw [listInside, Text.joinWith, List.map_cons, List.map_cons, List.intercalate_cons_cons]
  simp [listInside, Text.joinWith]

theorem listInside_singleton (a : AttributeForm) : listInside [a] = a.text := by
  rw [listInside, List.map_singleton, Text.joinWith, List.intercalate_singleton]

/-- No bracket between attributes counts. -/
theorem sealsBrackets_listInside (forms : List AttributeForm) : SealsBrackets (listInside forms) := by
  induction forms with
  | nil => exact sealsBrackets_nil
  | cons a forms ih =>
    cases forms with
    | nil =>
      rw [listInside_singleton]
      exact a.isSealed_text.brackets
    | cons b forms =>
      have hglue : SealsBrackets [',', ' '] := sealsBrackets_of_avoids (by decide)
      rw [listInside_cons_cons]
      exact a.isSealed_text.brackets.append (hglue.append ih)

/-- The parts of a list are its attributes, each but the first with a blank in front. -/
theorem commaParts_listInside (a : AttributeForm) (forms : List AttributeForm) :
    commaParts 0 false (listInside (a :: forms)) =
      a.text :: forms.map fun b => ' ' :: b.text := by
  induction forms generalizing a with
  | nil =>
    have hall := a.isSealed_text.commas 0 []
    rw [List.append_nil] at hall
    rw [listInside_singleton, hall, commaParts_nil, beforeFirst, List.append_nil]
    rfl
  | cons b forms ih =>
    have hcomma (rest : Text) : commaParts 0 false (',' :: rest) = [] :: commaParts 0 false rest := by
      rw [commaParts, if_pos ⟨rfl, rfl⟩]
    have hblank : SealsCommas [' '] := sealsCommas_of_avoids (by decide)
    have hnext := hblank 0 (listInside (b :: forms))
    rw [List.singleton_append] at hnext
    rw [listInside_cons_cons, a.isSealed_text.commas, hcomma, hnext, ih, beforeFirst, beforeFirst,
      List.append_nil]
    rfl

/-- A list begins with an attribute, not with a target. -/
theorem namesTarget_listInside (a : AttributeForm) (forms : List AttributeForm) :
    namesTarget (listInside (a :: forms)) = false := by
  cases forms with
  | nil =>
    have htarget : namesTarget (a.text ++ []) = false := a.namesTarget_text (by simp)
    rwa [List.append_nil, ← listInside_singleton] at htarget
  | cons b forms =>
    rw [listInside_cons_cons]
    exact a.namesTarget_text (by simp)

/-- **What is read of a list** are its attributes. -/
theorem attributesIn_listInside (forms : List AttributeForm) :
    attributesIn (listInside forms) = forms.map AttributeForm.meaning := by
  cases forms with
  | nil => rfl
  | cons a forms =>
    have hfilter : (a.text :: forms.map fun b => ' ' :: b.text).filter
        (fun part => !(Text.trim part).isEmpty) = a.text :: forms.map fun b => ' ' :: b.text := by
      rw [List.filter_eq_self]
      intro part hpart
      rcases List.mem_cons.mp hpart with rfl | hpart
      · simpa using a.trim_text_ne_nil.1
      · obtain ⟨b, -, rfl⟩ := List.mem_map.mp hpart
        simpa using b.trim_text_ne_nil.2
    have hread : (forms.map fun b => ' ' :: b.text).filterMap Attribute.read? =
        forms.map AttributeForm.meaning := by
      rw [List.filterMap_map, ← List.filterMap_eq_map]
      refine List.filterMap_congr fun b _ => ?_
      exact b.read?_blank_text
    rw [attributesIn, namesTarget_listInside, if_neg (by simp), commaParts_listInside, hfilter,
      List.filterMap_cons, a.read?_text, hread]
    rfl

/-- The attributes of a list that is closed come first. -/
theorem peelLists_of_list {inside inner after : Text}
    (h : closeBracket? 0 false inside = some (inner, after)) :
    peelLists ('[' :: inside) =
      (attributesIn inner ++ (peelLists (Text.trimStart after)).1,
        (peelLists (Text.trimStart after)).2) := by
  rw [peelLists]
  split
  next hnone =>
    rw [h] at hnone
    cases hnone
  next found rest hsome =>
    rw [h] at hsome
    cases hsome
    rfl

/-- A list that is not closed is left. -/
theorem peelLists_of_none {inside : Text} (h : closeBracket? 0 false inside = none) :
    peelLists ('[' :: inside) = ([], '[' :: inside) := by
  rw [peelLists]
  split
  next => rfl
  next inner after hsome =>
    rw [h] at hsome
    cases hsome

/-- A line that does not begin with a bracket has no lists in front. -/
theorem peelLists_of_ne {s : Text} (h : s.head? ≠ some '[') : peelLists s = ([], s) := by
  unfold peelLists
  split
  next => exact absurd rfl h
  next => rfl

/-- Where no list begins, all of a line is code. -/
theorem splitAttributes_of_ne {c : Char} (hblank : Text.isBlank c = false) (hopen : c ≠ '[')
    (rest : Text) : splitAttributes (c :: rest) = ([], c :: rest) := by
  rw [splitAttributes, Text.trimStart_cons hblank, peelLists_of_ne (by simpa using hopen)]

/-- Attributes between brackets come first of all that is peeled off. -/
theorem peelLists_listInside (forms : List AttributeForm) (after : Text) :
    peelLists ('[' :: (listInside forms ++ ']' :: after)) =
      (forms.map AttributeForm.meaning ++ (peelLists (Text.trimStart after)).1,
        (peelLists (Text.trimStart after)).2) := by
  have hclose : closeBracket? 0 false (listInside forms ++ ']' :: after) =
      some (listInside forms, after) := by
    rw [sealsBrackets_listInside forms]
    simp [before]
  rw [peelLists_of_list hclose, attributesIn_listInside]

/-! ## Lines of attributes -/

/-- An attribute to be written: its name does not carry the conventional ending, and its template
fits on a line. -/
structure AttributeText where
  name : Word
  name_short : ¬ attributeEnding <:+ name.text
  template : Option { s : Text // Text.IsLine s }

namespace AttributeText

/-- What stands behind the name: the template as a string in parentheses, if there is one. -/
def arguments (a : AttributeText) : Text :=
  match a.template with
  | none => []
  | some t => '(' :: (stringLiteral t ++ [')'])

/-- The attribute as it is written between brackets. -/
def text (a : AttributeText) : Text := a.name.text ++ a.arguments

/-- The attribute on a line of its own. -/
def line (a : AttributeText) : Text := '[' :: (a.text ++ [']'])

/-- The attribute that is meant. -/
def meaning (a : AttributeText) : Attribute := ⟨a.name.text, a.template.map Subtype.val⟩

/-- The attribute with its template as an argument. -/
def form (a : AttributeText) : AttributeForm where
  name := a.name
  name_short := a.name_short
  argument := a.template.map fun t => ⟨stringLiteral t.val, isSealed_stringLiteral t.val⟩

variable (a : AttributeText)

/-- The attribute of an outline is written as its form is. -/
theorem text_form : a.form.text = a.text := by
  obtain ⟨name, name_short, template⟩ := a
  cases template <;> rfl

theorem meaning_form : a.form.meaning = a.meaning := by
  obtain ⟨name, name_short, template⟩ := a
  cases template with
  | none => rfl
  | some t => exact congrArg (Attribute.mk name.text) (template?_stringLiteral t.val)

/-- On the line of an attribute there is this attribute and nothing else. -/
theorem splitAttributes_line : splitAttributes a.line = ([a.meaning], []) := by
  have hnothing : peelLists (Text.trimStart []) = ([], []) :=
    peelLists_of_ne (by simp [Text.trimStart])
  have hpeeled := peelLists_listInside [a.form] []
  rw [listInside_singleton, text_form, hnothing] at hpeeled
  rw [splitAttributes, line, Text.trimStart_cons (by decide), hpeeled]
  simp [meaning_form]

/-- The line of an attribute has no comments, and no braces outside of strings. -/
theorem exists_code_line :
    ∃ code, withoutComments a.line false = (a.line, false) ∧
      bareCode a.line false = (code, false) ∧ Avoids code ['{', '}'] := by
  unfold line text arguments
  cases a.template with
  | none =>
    have hplain : IsPlain ('[' :: (a.name.text ++ [] ++ [']'])) :=
      avoids_cons.mpr ⟨by decide, (a.name.isPlain.append (by decide)).append (by decide)⟩
    refine ⟨_, withoutComments_plain hplain, bareCode_plain hplain, avoids_cons.mpr ⟨by decide, ?_⟩⟩
    exact ((a.name.avoids (by decide)).append (by decide)).append (by decide)
  | some t =>
    have hfront : IsPlain ('[' :: (a.name.text ++ ['('])) :=
      avoids_cons.mpr ⟨by decide, a.name.isPlain.append (by decide)⟩
    have hback : IsPlain [')', ']'] := by decide
    have hline : '[' :: (a.name.text ++ '(' :: (stringLiteral t ++ [')']) ++ [']']) =
        '[' :: (a.name.text ++ ['(']) ++ stringLiteral t ++ [')', ']'] := by simp
    dsimp only
    rw [hline]
    refine ⟨_, withoutComments_stringLiteral hfront hback t, bareCode_stringLiteral hfront hback t,
      Avoids.append (Avoids.append (avoids_cons.mpr ⟨by decide, ?_⟩) (by decide)) (by decide)⟩
    exact (a.name.avoids (by decide)).append (by decide)

theorem isLine_line : Text.IsLine a.line := by
  have harguments : Text.IsLine a.arguments := by
    unfold arguments
    cases a.template with
    | none => exact fun _ h => by cases h
    | some t =>
      have hescaped : Text.IsLine (escaped t.val) := by
        intro c hc
        rcases mem_escaped hc with hmem | rfl
        · exact t.property c hmem
        · decide
      have hliteral : Text.IsLine (stringLiteral t.val) :=
        (show Text.IsLine ['"'] by decide).append (hescaped.append (by decide))
      exact (show Text.IsLine ['('] by decide).append (hliteral.append (by decide))
  have htext : Text.IsLine a.text := a.name.isLine.append harguments
  exact (show Text.IsLine ['['] by decide).append (htext.append (by decide))

end AttributeText

end RouteAtlas.Controllers
