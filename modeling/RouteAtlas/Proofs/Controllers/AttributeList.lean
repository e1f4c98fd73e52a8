import RouteAtlas.Proofs.Controllers.Attribute

/-!
# Lists of attributes that were written down

Attributes are written as lists in brackets, one list behind the other, and then code follows. What
is read are these attributes in their order, whatever their templates hold, and what is left is this
code (`splitAttributes_lists`). Their names consist of word characters: of an attribute with another
name, such as one with an accent that is a character of its own, nothing is read
(`splitAttributes_of_accent`).
-/

namespace RouteAtlas.Controllers

/-- Code follows here, or nothing: neither a blank nor another list of attributes. -/
def BeginsCode (s : Text) : Prop := ∀ c ∈ s.head?, Text.isBlank c = false ∧ c ≠ '['

instance (s : Text) : Decidable (BeginsCode s) := Option.decidableForallMem s.head?

theorem BeginsCode.trimStart {s : Text} (h : BeginsCode s) : Text.trimStart s = s := by
  cases s with
  | nil => rfl
  | cons c rest => exact Text.trimStart_cons (h c rfl).1 rest

theorem BeginsCode.peelLists {s : Text} (h : BeginsCode s) : peelLists s = ([], s) := by
  refine peelLists_of_ne ?_
  intro hopen
  exact (h '[' hopen).2 rfl

namespace Attribute

/-- The name of an attribute can be written down: it is a word, and it does not carry the ending
that is taken away. -/
structure HasPlainName (a : Attribute) : Prop where
  ne : a.name ≠ []
  isWordChar : ∀ c ∈ a.name, Text.isWordChar c = true
  short : ¬ attributeEnding <:+ a.name

instance (a : Attribute) : Decidable a.HasPlainName :=
  decidable_of_iff
    (a.name ≠ [] ∧ a.name.all Text.isWordChar = true ∧ ¬ attributeEnding <:+ a.name)
    ⟨fun ⟨ne, isWordChar, short⟩ => ⟨ne, List.all_eq_true.mp isWordChar, short⟩,
      fun ⟨ne, isWordChar, short⟩ => ⟨ne, List.all_eq_true.mpr isWordChar, short⟩⟩

/-- An attribute as it is written, with its template as a string. -/
def text (a : Attribute) : Text :=
  match a.template with
  | none => a.name
  | some t => a.name ++ '(' :: (stringLiteral t ++ [')'])

/-- The attribute with its template as an argument. -/
def form (a : Attribute) (h : a.HasPlainName) : AttributeForm where
  name := ⟨a.name, h.ne, h.isWordChar⟩
  name_short := h.short
  argument := a.template.map fun t => ⟨stringLiteral t, isSealed_stringLiteral t⟩

variable {a : Attribute}

theorem text_form (h : a.HasPlainName) : (a.form h).text = a.text := by
  obtain ⟨name, template⟩ := a
  cases template with
  | none => exact List.append_nil name
  | some t => rfl

theorem meaning_form (h : a.HasPlainName) : (a.form h).meaning = a := by
  obtain ⟨name, template⟩ := a
  cases template with
  | none => rfl
  | some t => exact congrArg (Attribute.mk name) (template?_stringLiteral t)

end Attribute

/-- Attributes in brackets. -/
def attributeList (attributes : List Attribute) : Text :=
  '[' :: (Text.joinWith ", ".toList (attributes.map Attribute.text) ++ [']'])

/-- A list comes first of all that is peeled off. -/
theorem peelLists_attributeList {attributes : List Attribute}
    (h : ∀ a ∈ attributes, a.HasPlainName) (after : Text) :
    peelLists (attributeList attributes ++ after) =
      (attributes ++ (peelLists (Text.trimStart after)).1, (peelLists (Text.trimStart after)).2) := by
  have htexts : (attributes.pmap Attribute.form h).map AttributeForm.text =
      attributes.map Attribute.text := by
    rw [List.map_pmap, ← List.pmap_eq_map h]
    exact List.pmap_congr_left attributes fun a _ ha _ => Attribute.text_form ha
  have hmeanings : (attributes.pmap Attribute.form h).map AttributeForm.meaning = attributes := by
    rw [List.map_pmap]
    calc attributes.pmap (fun a ha => (a.form ha).meaning) h
        = attributes.pmap (fun a _ => a) h :=
          List.pmap_congr_left attributes fun a _ ha _ => Attribute.meaning_form ha
      _ = attributes := by rw [List.pmap_eq_map, List.map_id']
  have hpeeled := peelLists_listInside (attributes.pmap Attribute.form h) after
  rw [listInside, htexts, hmeanings] at hpeeled
  rw [attributeList, List.cons_append, List.append_assoc, List.singleton_append]
  exact hpeeled

/-- There are no blanks in front of lists, nor of the code behind them. -/
theorem trimStart_lists {rest : Text} (hrest : BeginsCode rest) (lists : List (List Attribute)) :
    Text.trimStart (lists.flatMap attributeList ++ rest) = lists.flatMap attributeList ++ rest := by
  cases lists with
  | nil => exact hrest.trimStart
  | cons attributes lists => exact Text.trimStart_cons (by decide) _

/-- **Lists are taken off one by one**, and the code is left. The induction is on the lists. -/
theorem peelLists_lists {lists : List (List Attribute)} {rest : Text}
    (hlists : ∀ attributes ∈ lists, ∀ a ∈ attributes, a.HasPlainName) (hrest : BeginsCode rest) :
    peelLists (lists.flatMap attributeList ++ rest) = (lists.flatten, rest) := by
  induction lists with
  | nil => exact hrest.peelLists
  | cons attributes lists ih =>
    rw [List.forall_mem_cons] at hlists
    rw [List.flatMap_cons, List.append_assoc, peelLists_attributeList hlists.1,
      trimStart_lists hrest, ih hlists.2, List.flatten_cons]

/-- **What was written down is what is read.** Of any number of lists with any number of attributes,
whatever the templates are, exactly these attributes are read in their order, and the code behind
the lists is left. -/
theorem splitAttributes_lists {lists : List (List Attribute)} {rest : Text}
    (hlists : ∀ attributes ∈ lists, ∀ a ∈ attributes, a.HasPlainName) (hrest : BeginsCode rest) :
    splitAttributes (lists.flatMap attributeList ++ rest) = (lists.flatten, rest) := by
  rw [splitAttributes, trimStart_lists hrest, peelLists_lists hlists hrest]

/-- Two attributes in one list and one in the next, with templates that hold a bracket, a comma, a
parenthesis, a line feed, a name for a template, and quotes behind backslashes. -/
theorem splitAttributes_lists_crowded :
    let lists : List (List Attribute) :=
      [[⟨"HttpGet".toList, some "a],(\"\\\n".toList⟩, ⟨"Authorize".toList, none⟩],
        [⟨"Route".toList, some "template: \"".toList⟩]]
    (∀ attributes ∈ lists, ∀ a ∈ attributes, a.HasPlainName) ∧ BeginsCode "public".toList ∧
      splitAttributes
          "[HttpGet(\"a],(\\\"\\\\\n\"), Authorize][Route(\"template: \\\"\")]public".toList =
        (lists.flatten, "public".toList) := by
  intro lists
  have hlists : ∀ attributes ∈ lists, ∀ a ∈ attributes, a.HasPlainName := by decide
  have hrest : BeginsCode "public".toList := by decide
  exact ⟨hlists, hrest, splitAttributes_lists hlists hrest⟩

/-- An attribute whose name ends with an accent that is a character of its own. -/
def accentedAttribute : Attribute := ⟨"Cafe\u0301".toList, none⟩

/-- A name with another character than those of words is not read, and neither is its attribute: the
list is passed over. -/
theorem splitAttributes_of_accent :
    splitAttributes (attributeList [accentedAttribute] ++ "public".toList) =
        ([], "public".toList) ∧
      splitAttributes (attributeList [accentedAttribute] ++ "public".toList) ≠
        ([accentedAttribute], "public".toList) := by
  let word : Word := ⟨"Cafe".toList, by decide, List.all_eq_true.mp (by decide)⟩
  have hname : "Cafe\u0301".toList = word.text ++ "\u0301".toList := rfl
  have hends : EndsWord "\u0301".toList := endsWord_cons isWordChar_accent []
  have htarget : namesTarget "Cafe\u0301".toList = false := by
    rw [namesTarget, hname, word.trimStart_append, word.takeWhile_append hends, List.drop_left]
    rfl
  have hqualified : qualifiedName "Cafe\u0301".toList = word.text := by
    rw [qualifiedName, hname, List.takeWhile_append_of_pos fun c hc => by simp [word.isWordChar c hc]]
    simp [isWordChar_accent]
  -- what stands behind the word is no argument in parentheses
  have hread : Attribute.read? "Cafe\u0301".toList = none := by
    have hstart : Text.trimStart "Cafe\u0301".toList = "Cafe\u0301".toList := word.trimStart_append _
    rw [Attribute.read?, hstart, hqualified]
    rfl
  have hinside : attributesIn "Cafe\u0301".toList = [] := by
    have hparts : (commaParts 0 false "Cafe\u0301".toList).filter
        (fun part => !(Text.trim part).isEmpty) = ["Cafe\u0301".toList] := by decide
    rw [attributesIn, htarget, if_neg (by simp), hparts, List.filterMap_cons, hread]
    rfl
  have hclose : closeBracket? 0 false "Cafe\u0301]public".toList =
      some ("Cafe\u0301".toList, "public".toList) := by decide
  have hcode : BeginsCode "public".toList := by decide
  have hsplit : splitAttributes (attributeList [accentedAttribute] ++ "public".toList) =
      ([], "public".toList) := by
    show peelLists ('[' :: "Cafe\u0301]public".toList) = _
    rw [peelLists_of_list hclose, hinside, hcode.trimStart, hcode.peelLists]
    rfl
  rw [hsplit]
  exact ⟨rfl, by decide⟩

end RouteAtlas.Controllers
