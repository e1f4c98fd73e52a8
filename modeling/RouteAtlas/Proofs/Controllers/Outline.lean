import RouteAtlas.Controllers.Scan
import RouteAtlas.Proofs.Controllers.Attribute
import RouteAtlas.Proofs.Controllers.Declaration

/-!
# Outlines of source files

An outline is what stands in a file or in the body of a class: methods and classes with their
attributes, nested in any way and to any depth. It is written down one item per line, and what is
scanned are exactly its classes, each with its own methods, where they were written
(`classesOf_outline`).

Each kind of line has one effect on the state of the scan (`addLine_attribute`, `addLine_class` and
so on). The run over a whole outline is an induction on the outline. In front of and behind each
part of it the state is at rest (`ScanState.AtRest`): nothing waits, and the innermost body is open
at exactly the depth of the line. A part then adds its methods to that body's class and its classes
at the end, and changes nothing else (`ScanState.extended`).

What a part adds is independent of what was there before, which makes the induction go through: an
outline within a class is run from a state with one more class and one more body, and when the body
is closed again, what was added to the innermost class is added to that class wherever it stands.
The classes within it have been put behind it, as they are declared later.

How the lines end is not seen by the scan, since it is given lines.
-/

namespace RouteAtlas.Controllers

/-! ## Outlines -/

/-- What stands in a file, or in the body of a class. -/
inductive Outline where
  | nothing
  | method (attributes : List AttributeText) (declaration : MethodText) (rest : Outline)
  | type (attributes : List AttributeText) (declaration : ClassText) (body rest : Outline)

namespace Outline

/-- The lines of an outline, one item on each. -/
def lines : Outline → List Text
  | .nothing => []
  | .method attributes declaration rest =>
    attributes.map AttributeText.line ++ declaration.line :: rest.lines
  | .type attributes declaration body rest =>
    attributes.map AttributeText.line ++ declaration.line :: ['{'] ::
      (body.lines ++ ['}'] :: rest.lines)

/-- The methods that an outline from a line on adds to the class in whose body it stands. -/
def methods (line : Nat) : Outline → List Action
  | .nothing => []
  | .method attributes declaration rest =>
    ⟨declaration.name.text, line, declaration.isPublic, attributes.map AttributeText.meaning⟩ ::
      rest.methods (line + attributes.length + 1)
  | .type attributes _ body rest =>
    rest.methods (line + attributes.length + 2 + body.lines.length + 1)

/-- The classes of an outline from a line on, in the order of their declarations. -/
def classes (file : Path) (line : Nat) : Outline → List ClassDecl
  | .nothing => []
  | .method attributes _ rest => rest.classes file (line + attributes.length + 1)
  | .type attributes declaration body rest =>
    let first := line + attributes.length + 2
    ⟨declaration.name.text, file, line, declaration.bases.map BaseText.text,
        attributes.map AttributeText.meaning, body.methods first⟩ ::
      (body.classes file first ++ rest.classes file (first + body.lines.length + 1))

end Outline

/-! ## Lines -/

namespace ScanState

/-- No comment is open. -/
structure OutsideComments (s : ScanState) : Prop where
  inComment : s.inComment = false
  inCodeComment : s.inCodeComment = false

variable {s : ScanState}

/-- The effect of a line whose comments, if it has any, are closed at its end. -/
theorem addLine_eq {text visible code : Text} (h : s.OutsideComments)
    (hvisible : withoutComments text false = (visible, false))
    (hcode : bareCode text false = (code, false)) (file : Path) (line : Nat) :
    s.addLine file line text = code.foldl brace (s.declarations file line visible) := by
  obtain ⟨classes, bodies, waiting, awaited, depth, inComment, inCodeComment⟩ := s
  obtain ⟨rfl, rfl⟩ := h
  unfold addLine
  dsimp only
  rw [hvisible, hcode]

/-- Only braces change the state of the braces. -/
theorem foldl_brace_of_avoids {code : Text} (h : Avoids code ['{', '}']) (s : ScanState) :
    code.foldl brace s = s := by
  induction code with
  | nil => rfl
  | cons c code ih =>
    rw [avoids_cons] at h
    obtain ⟨hopen, hclose⟩ : c ≠ '{' ∧ c ≠ '}' := by simpa using h.1
    rw [List.foldl_cons, brace, if_neg hopen, if_neg hclose, ih h.2]

/-- The line of an attribute adds the attribute to those that wait. -/
theorem addLine_attribute (h : s.OutsideComments) (file : Path) (line : Nat) (a : AttributeText) :
    s.addLine file line a.line = s.addAttributes line [a.meaning] := by
  obtain ⟨code, hvisible, hcode, hbraces⟩ := a.exists_code_line
  have hne : Text.trim a.line ≠ [] := Text.trim_cons_ne_nil (by decide) _
  rw [addLine_eq h hvisible hcode, foldl_brace_of_avoids hbraces, declarations,
    if_neg (by simpa using hne), a.splitAttributes_line]
  rfl

/-- The effect of a line of code without strings, comments and attributes. -/
theorem addLine_code (h : s.OutsideComments) {text : Text} (hplain : IsPlain text)
    (hhead : ∃ c rest, text = c :: rest ∧ Text.isBlank c = false ∧ c ≠ '[')
    (file : Path) (line : Nat) :
    s.addLine file line text = text.foldl brace (s.addCode file line text) := by
  obtain ⟨c, rest, rfl, hblank, hopen⟩ := hhead
  have hne : Text.trim (c :: rest) ≠ [] := Text.trim_cons_ne_nil hblank rest
  rw [addLine_eq h (withoutComments_plain hplain) (bareCode_plain hplain), declarations,
    if_neg (by simpa using hne), splitAttributes_of_ne hblank hopen]
  rfl

/-- The line of a class declares it, and the class takes what waits. -/
theorem addLine_class (h : s.OutsideComments) (file : Path) (line : Nat) (c : ClassText) :
    s.addLine file line c.line =
      { s.addClass file line ⟨c.name.text, c.bases.map BaseText.text⟩ with waiting := none } := by
  have hplain : IsPlain c.line := c.avoids_line.mono (by decide)
  have hbraces : Avoids c.line ['{', '}'] := c.avoids_line.mono (by decide)
  have hhead : ∃ first rest, c.line = first :: rest ∧ Text.isBlank first = false ∧ first ≠ '[' :=
    ⟨'p', "ublic class ".toList ++ (c.name.text ++ c.tail), rfl, by decide, by decide⟩
  rw [addLine_code h hplain hhead, foldl_brace_of_avoids hbraces, addCode, c.find?_line]
  rfl

/-- The line of a method declares it, and the method takes what waits. -/
theorem addLine_method (h : s.OutsideComments) (file : Path) (line : Nat) (m : MethodText) :
    s.addLine file line m.line =
      "{ }".toList.foldl brace
        { s.addMethod line ⟨[m.modifier], m.name.text⟩ with waiting := none } := by
  have hhead : ∃ first rest, m.line = first :: rest ∧ Text.isBlank first = false ∧ first ≠ '[' := by
    unfold MethodText.line MethodText.front MethodText.modifier
    cases m.isPublic
    · exact ⟨'p', _, rfl, by decide, by decide⟩
    · exact ⟨'p', _, rfl, by decide, by decide⟩
  have hcode : s.addCode file line m.line =
      { s.addMethod line ⟨[m.modifier], m.name.text⟩ with waiting := none } := by
    obtain ⟨first, rest, hcons, -, -⟩ := hhead
    rw [addCode, m.find?_line, m.read?_line, hcons]
    rfl
  rw [addLine_code h m.isPlain_line hhead, hcode, MethodText.line, List.foldl_append,
    foldl_brace_of_avoids (m.avoids_front.mono (by decide))]

/-- A brace on a line of its own drops what waits. -/
theorem addLine_brace (h : s.OutsideComments) {c : Char} (hc : c = '{' ∨ c = '}') (file : Path)
    (line : Nat) : s.addLine file line [c] = brace { s with waiting := none } c := by
  rcases hc with rfl | rfl
  · rw [addLine_code h (by decide) ⟨'{', [], rfl, by decide, by decide⟩]
    rfl
  · rw [addLine_code h (by decide) ⟨'}', [], rfl, by decide, by decide⟩]
    rfl

/-! ## Several lines -/

/-- The state after lines that follow each other, the first of which has a number. -/
def after (file : Path) (s : ScanState) (line : Nat) (lines : List Text) : ScanState :=
  (lines.zipIdx line).foldl (fun s (text, line) => s.addLine file line text) s

theorem after_nil (file : Path) (s : ScanState) (line : Nat) : s.after file line [] = s := rfl

theorem after_cons (file : Path) (s : ScanState) (line : Nat) (text : Text) (lines : List Text) :
    s.after file line (text :: lines) = (s.addLine file line text).after file (line + 1) lines := by
  rw [after, List.zipIdx_cons, List.foldl_cons]
  rfl

theorem after_append (file : Path) (s : ScanState) (line : Nat) (front back : List Text) :
    s.after file line (front ++ back) =
      (s.after file line front).after file (line + front.length) back := by
  induction front generalizing s line with
  | nil => rfl
  | cons text front ih =>
    rw [List.cons_append, after_cons, after_cons, ih, List.length_cons, Nat.add_assoc,
      Nat.add_comm 1]

/-- The attributes on several lines wait together, from the first of these lines on. -/
theorem after_attributes (h : s.OutsideComments) (hwaiting : s.waiting = none) (file : Path)
    (line : Nat) (attributes : List AttributeText) :
    s.after file line (attributes.map AttributeText.line) =
      s.addAttributes line (attributes.map AttributeText.meaning) := by
  cases attributes with
  | nil => rfl
  | cons a attributes =>
    have hfirst : s.addLine file line a.line = { s with waiting := some ⟨[a.meaning], line⟩ } := by
      rw [addLine_attribute h, addAttributes, if_neg (by simp), hwaiting]
    -- The first line sets where they began; the others are added to them. The induction is on the
    -- others.
    have hmore (w : Waiting) (line : Nat) :
        ({ s with waiting := some w } : ScanState).after file line
            (attributes.map AttributeText.line) =
          { s with
            waiting := some ⟨w.attributes ++ attributes.map AttributeText.meaning, w.line⟩ } := by
      induction attributes generalizing w line with
      | nil => rw [List.map_nil, after_nil, List.map_nil, List.append_nil]
      | cons b attributes ih =>
        have houtside : ({ s with waiting := some w } : ScanState).OutsideComments :=
          ⟨h.inComment, h.inCodeComment⟩
        rw [List.map_cons, after_cons, addLine_attribute houtside, addAttributes,
          if_neg (by simp)]
        dsimp only
        rw [ih, List.map_cons, List.append_assoc, List.singleton_append]
    rw [List.map_cons, after_cons, hfirst, hmore, List.map_cons, addAttributes, if_neg (by simp),
      hwaiting]
    rfl

/-! ## Outlines -/

/-- Nothing waits, no comment is open, and the innermost body is open at exactly the depth of the
line. -/
structure AtRest (s : ScanState) : Prop where
  outsideComments : s.OutsideComments
  waiting : s.waiting = none
  awaited : s.awaited = none
  innermost : ∀ body ∈ s.bodies.head?, body.depth = s.depth ∧ body.place < s.classes.length

/-- A class with more methods. -/
def withMethods (methods : List Action) (c : ClassDecl) : ClassDecl :=
  { c with methods := c.methods ++ methods }

/-- The classes, with more methods of the one whose body is the innermost. -/
def classesWith (s : ScanState) (methods : List Action) : List ClassDecl :=
  match s.bodies with
  | body :: _ => s.classes.modify body.place (withMethods methods)
  | [] => s.classes

/-- The state with more methods of the class whose body is the innermost, and with more classes. -/
def extended (s : ScanState) (methods : List Action) (classes : List ClassDecl) : ScanState :=
  { s with classes := s.classesWith methods ++ classes }

theorem length_classesWith (s : ScanState) (methods : List Action) :
    (s.classesWith methods).length = s.classes.length := by
  unfold classesWith
  split
  · rw [List.length_modify]
  · rfl

/-- Without methods the classes stay as they are. -/
theorem classesWith_nil (s : ScanState) : s.classesWith [] = s.classes := by
  have hid : withMethods [] = id := by
    funext c
    rw [withMethods, List.append_nil]
    rfl
  unfold classesWith
  split
  · rw [hid, List.modify_id]
  · rfl

/-- A part without anything changes nothing. -/
theorem extended_nil (s : ScanState) : s.extended [] [] = s := by
  rw [extended, classesWith_nil, List.append_nil]

/-- What stands behind a place is not changed there. -/
theorem modify_append {α : Type} {front : List α} {place : Nat} (h : place < front.length)
    (f : α → α) (back : List α) :
    (front ++ back).modify place f = front.modify place f ++ back := by
  induction front generalizing place with
  | nil => cases h
  | cons a front ih =>
    cases place with
    | zero => rfl
    | succ place =>
      rw [List.cons_append, List.modify_succ_cons, List.modify_succ_cons, List.cons_append,
        ih (by simpa using h)]

/-- What is added twice can be added at once. -/
theorem extended_extended (h : s.AtRest) (methods more : List Action)
    (classes others : List ClassDecl) :
    (s.extended methods classes).extended more others =
      s.extended (methods ++ more) (classes ++ others) := by
  have hclasses : (s.extended methods classes).classesWith more =
      s.classesWith (methods ++ more) ++ classes := by
    obtain ⟨-, -, -, hinnermost⟩ := h
    unfold extended classesWith
    dsimp only
    cases hbodies : s.bodies with
    | nil => rfl
    | cons body outer =>
      obtain ⟨-, hplace⟩ := hinnermost body (by rw [hbodies]; rfl)
      dsimp only
      rw [modify_append (by rw [List.length_modify]; exact hplace), List.modify_modify_eq]
      congr 2
      funext c
      simp [withMethods]
  rw [extended, hclasses, List.append_assoc]
  rfl

/-- Behind a part the scan is at rest as in front of it. -/
theorem AtRest.extended (h : s.AtRest) (methods : List Action) (classes : List ClassDecl) :
    (s.extended methods classes).AtRest := by
  obtain ⟨⟨hcomment, hcode⟩, hwaiting, hawaited, hinnermost⟩ := h
  refine ⟨⟨hcomment, hcode⟩, hwaiting, hawaited, fun body hbody => ?_⟩
  obtain ⟨hdepth, hplace⟩ := hinnermost body hbody
  refine ⟨hdepth, ?_⟩
  show body.place < (s.classesWith methods ++ classes).length
  rw [List.length_append, length_classesWith]
  omega

/-- Attributes wait for a declaration, which starts where they start. -/
theorem exists_addAttributes_eq (h : s.AtRest) (line : Nat) (attributes : List Attribute) :
    ∃ waiting : Option Waiting,
      s.addAttributes line attributes = { s with waiting } ∧
      (waiting.map Waiting.attributes).getD [] = attributes ∧
      (waiting.map Waiting.line).getD (line + attributes.length) = line := by
  cases attributes with
  | nil =>
    refine ⟨none, ?_, rfl, rfl⟩
    rw [addAttributes, if_pos (by rfl), ← h.waiting]
  | cons a attributes =>
    refine ⟨some ⟨a :: attributes, line⟩, ?_, rfl, rfl⟩
    rw [addAttributes, if_neg (by simp), h.waiting]

/-- Braces that close each other change nothing. -/
theorem foldl_braces (h : s.AtRest) : "{ }".toList.foldl brace s = s := by
  obtain ⟨classes, bodies, waiting, awaited, depth, inComment, inCodeComment⟩ := s
  obtain ⟨-, -, rfl, hinnermost⟩ := h
  show brace (brace (brace _ '{') ' ') '}' = _
  cases bodies with
  | nil => rfl
  | cons body outer =>
    have hdepth : body.depth = depth := (hinnermost body rfl).1
    have hother : ¬ body.depth = depth + 1 := by omega
    simp [brace, hother]

/-- A method with its attributes is added to the class in whose body it stands. -/
theorem after_method (h : s.AtRest) (file : Path) (line : Nat) (attributes : List AttributeText)
    (m : MethodText) :
    s.after file line (attributes.map AttributeText.line ++ [m.line]) =
      s.extended [⟨m.name.text, line, m.isPublic, attributes.map AttributeText.meaning⟩] [] := by
  obtain ⟨waiting, hwaiting, hattributes, hstart⟩ :=
    exists_addAttributes_eq h line (attributes.map AttributeText.meaning)
  rw [List.length_map] at hstart
  have houtside : ({ s with waiting } : ScanState).OutsideComments :=
    ⟨h.outsideComments.inComment, h.outsideComments.inCodeComment⟩
  have hpublic : [m.modifier].contains "public".toList = m.isPublic := by
    unfold MethodText.modifier
    cases m.isPublic <;> decide
  -- The method goes to the innermost body, which is open at the depth of the scan.
  have hadded :
      { ({ s with waiting } : ScanState).addMethod (line + attributes.length)
          ⟨[m.modifier], m.name.text⟩ with waiting := none } =
        s.extended [⟨m.name.text, line, m.isPublic, attributes.map AttributeText.meaning⟩] [] := by
    unfold addMethod extended classesWith startLine ScanState.attributes
    dsimp only
    rw [hstart, hattributes, hpublic, ← h.waiting]
    cases hbodies : s.bodies with
    | nil => rw [List.append_nil]
    | cons body outer =>
      have hdepth := (h.innermost body (by rw [hbodies]; rfl)).1
      dsimp only
      rw [if_pos hdepth.symm, List.append_nil]
      rfl
  rw [after_append, after_attributes h.outsideComments h.waiting, hwaiting, after_cons, after_nil,
    addLine_method houtside, List.length_map, hadded, foldl_braces (h.extended _ _)]

/-- What a class adds to the state in front of its body. -/
def entered (s : ScanState) (c : ClassDecl) : ScanState :=
  { s with
    classes := s.classes ++ [c]
    bodies := ⟨s.classes.length, s.depth + 1⟩ :: s.bodies
    depth := s.depth + 1 }

/-- A class with its attributes is declared, and its body is opened. -/
theorem after_class (h : s.AtRest) (file : Path) (line : Nat) (attributes : List AttributeText)
    (c : ClassText) :
    s.after file line (attributes.map AttributeText.line ++ [c.line, ['{']]) =
      s.entered ⟨c.name.text, file, line, c.bases.map BaseText.text,
        attributes.map AttributeText.meaning, []⟩ := by
  obtain ⟨waiting, hwaiting, hattributes, hstart⟩ :=
    exists_addAttributes_eq h line (attributes.map AttributeText.meaning)
  rw [List.length_map] at hstart
  have houtside (waiting : Option Waiting) (classes : List ClassDecl) (awaited : Option Nat) :
      ({ s with waiting, classes, awaited } : ScanState).OutsideComments :=
    ⟨h.outsideComments.inComment, h.outsideComments.inCodeComment⟩
  have hadded :
      { ({ s with waiting } : ScanState).addClass file (line + attributes.length)
          ⟨c.name.text, c.bases.map BaseText.text⟩ with waiting := none } =
        { s with
          waiting := none
          classes := s.classes ++ [⟨c.name.text, file, line, c.bases.map BaseText.text,
            attributes.map AttributeText.meaning, []⟩]
          awaited := some s.classes.length } := by
    unfold addClass startLine ScanState.attributes
    dsimp only
    rw [hstart, hattributes]
  -- The brace opens the body of the class that was declared last.
  have hentered (new : ClassDecl) :
      brace { s with
        waiting := none, classes := s.classes ++ [new], awaited := some s.classes.length } '{' =
        s.entered new := by
    obtain ⟨classes, bodies, waiting, awaited, depth, inComment, inCodeComment⟩ := s
    obtain ⟨-, rfl, rfl, -⟩ := h
    rfl
  rw [after_append, after_attributes h.outsideComments h.waiting, hwaiting, after_cons, after_cons,
    after_nil, addLine_class (houtside waiting _ _), List.length_map, hadded,
    addLine_brace (houtside none _ _) (.inl rfl)]
  exact hentered _

/-- Within the body of a class the scan is at rest, too. -/
theorem AtRest.entered (h : s.AtRest) (c : ClassDecl) : (s.entered c).AtRest := by
  obtain ⟨⟨hcomment, hcode⟩, hwaiting, hawaited, -⟩ := h
  refine ⟨⟨hcomment, hcode⟩, hwaiting, hawaited, fun body hbody => ?_⟩
  obtain rfl : ⟨s.classes.length, s.depth + 1⟩ = body := by simpa [ScanState.entered] using hbody
  exact ⟨rfl, by simp [ScanState.entered]⟩

/-- The body of a class is closed, with all that was found in it. -/
theorem addLine_close (h : s.AtRest) (file : Path) (line : Nat) (c : ClassDecl)
    (methods : List Action) (classes : List ClassDecl) :
    ((s.entered c).extended methods classes).addLine file line ['}'] =
      s.extended [] (withMethods methods c :: classes) := by
  -- The class stands behind those that were there before it.
  have hbody : (s.entered c).classesWith methods = s.classes ++ [withMethods methods c] := by
    show (s.classes ++ [c]).modify s.classes.length (withMethods methods) = _
    induction s.classes with
    | nil => rfl
    | cons other others ih =>
      rw [List.cons_append, List.length_cons, List.modify_succ_cons, ih]
      rfl
  have hrest : ((s.entered c).extended methods classes).AtRest := (h.entered c).extended _ _
  have hwaiting : ({ (s.entered c).extended methods classes with waiting := none } : ScanState) =
      (s.entered c).extended methods classes := by
    rw [← hrest.waiting]
  rw [addLine_brace hrest.outsideComments (.inr rfl), hwaiting, brace, if_neg (by decide),
    if_pos rfl, extended, hbody]
  show ({ s with
    classes := s.classes ++ [withMethods methods c] ++ classes
    bodies := if s.depth + 1 = s.depth + 1 then s.bodies else _
    depth := s.depth + 1 - 1 } : ScanState) = _
  rw [if_pos rfl, extended, classesWith_nil, List.append_assoc]
  rfl

/-- **A run over an outline.** Whatever the state is, as long as it is at rest, the lines of an
outline add its methods to the class in whose body it stands, and its classes at the end. -/
theorem after_outline (o : Outline) (h : s.AtRest) (file : Path) (line : Nat) :
    s.after file line o.lines = s.extended (o.methods line) (o.classes file line) := by
  induction o generalizing s line with
  | nothing => exact (extended_nil s).symm
  | method attributes m rest ih =>
    have hsplit : (Outline.method attributes m rest).lines =
        (attributes.map AttributeText.line ++ [m.line]) ++ rest.lines := by
      simp [Outline.lines]
    rw [hsplit, after_append, after_method h, ih (h.extended _ _), extended_extended h]
    simp [Outline.methods, Outline.classes, Nat.add_assoc]
  | type attributes c body rest ihbody ihrest =>
    have hsplit : (Outline.type attributes c body rest).lines =
        (attributes.map AttributeText.line ++ [c.line, ['{']]) ++
          (body.lines ++ ['}'] :: rest.lines) := by
      simp [Outline.lines]
    have hfirst : line + (attributes.map AttributeText.line ++ [c.line, ['{']]).length =
        line + attributes.length + 2 := by
      simp [Nat.add_assoc]
    rw [hsplit, after_append, after_class h, hfirst, after_append, ihbody (h.entered _), after_cons,
      addLine_close h, ihrest (h.extended _ _), extended_extended h]
    simp [Outline.methods, Outline.classes, withMethods]

end ScanState

/-! ## Sources -/

namespace Outline

/-- No item of an outline takes more than one line, nor is it empty. -/
theorem isLine_of_mem_lines (o : Outline) : ∀ line ∈ o.lines, Text.IsLine line ∧ line ≠ [] := by
  have hattribute : ∀ attributes : List AttributeText,
      ∀ line ∈ attributes.map AttributeText.line, Text.IsLine line ∧ line ≠ [] := by
    intro attributes line hline
    obtain ⟨a, -, rfl⟩ := List.mem_map.mp hline
    exact ⟨a.isLine_line, List.cons_ne_nil _ _⟩
  induction o with
  | nothing =>
    intro line hline
    cases hline
  | method attributes m rest ih =>
    rw [lines, List.forall_mem_append, List.forall_mem_cons]
    exact ⟨hattribute attributes, ⟨m.isLine_line, m.line_ne_nil⟩, ih⟩
  | type attributes c body rest ihbody ihrest =>
    rw [lines, List.forall_mem_append, List.forall_mem_cons, List.forall_mem_cons,
      List.forall_mem_append, List.forall_mem_cons]
    exact ⟨hattribute attributes, ⟨c.isLine_line, c.line_ne_nil⟩, ⟨by decide, by decide⟩, ihbody,
      ⟨by decide, by decide⟩, ihrest⟩

/-- The outline as a text. -/
def source (o : Outline) : Text := o.lines.flatMap (· ++ ['\n'])

end Outline

/-- At first nothing waits and no body is open. -/
theorem atRest_empty : ScanState.AtRest {} :=
  ⟨⟨rfl, rfl⟩, rfl, rfl, fun _ h => by cases h⟩

/-- The classes of any text with the lines of an outline are those of the outline. -/
theorem classesOf_of_lines {source : Text} (o : Outline) (h : Text.lines source = o.lines)
    (file : Path) : classesOf source file = o.classes file 1 := by
  have hrun := ScanState.after_outline o atRest_empty file 1
  have hscan : scan file o.lines = ScanState.extended {} (o.methods 1) (o.classes file 1) := hrun
  rw [classesOf, h, hscan]
  rfl

/-- **What is written down is what is scanned.** The classes of an outline, written one item per
line, are scanned in the order of their declarations, each with its bases, its attributes and its
own methods in their order, at the line where it starts: that of its first attribute, or that of its
declaration. It makes no difference whether there is a line feed behind the last line. -/
theorem classesOf_outline (o : Outline) (file : Path) :
    classesOf o.source file = o.classes file 1 ∧
      classesOf (Text.joinWith ['\n'] o.lines) file = o.classes file 1 := by
  have hlines : ∀ line ∈ o.lines, Text.IsLine line := fun line hline =>
    (o.isLine_of_mem_lines line hline).1
  have hlast : o.lines.getLast? ≠ some [] := by
    intro hempty
    exact (o.isLine_of_mem_lines [] (List.mem_of_getLast? hempty)).2 rfl
  exact ⟨classesOf_of_lines o (Text.lines_flatMap hlines) file,
    classesOf_of_lines o (Text.lines_joinWith hlines hlast) file⟩

/-- The declaration of a class whose name ends with an accent that is a character of its own. -/
def accentedLine : Text := "public class ".toList ++ ("Cafe".toList ++ "\u0301 : Base".toList)

/-- The file of `accentedLine`. -/
def accentedFile : Path := ⟨.relative, ["Cafe.cs".toList]⟩

/-- The text of `accentedFile`. -/
def accentedSource : Text := Text.joinWith ['\n'] [accentedLine, ['{'], ['}']]

/-- A name is read only up to its first character that is no word character. Nothing is read of what
follows: the class loses its bases. -/
theorem classesOf_outline_of_accent :
    classesOf accentedSource accentedFile = [⟨"Cafe".toList, accentedFile, 1, [], [], []⟩] ∧
      classesOf accentedSource accentedFile ≠
        [⟨"Cafe\u0301".toList, accentedFile, 1, ["Base".toList], [], []⟩] := by
  have hlines : Text.lines accentedSource = [accentedLine, ['{'], ['}']] :=
    Text.lines_joinWith (by decide) (by decide)
  have hfind : ClassHead.find? accentedLine = some ⟨"Cafe".toList, []⟩ :=
    find?_class ⟨"Cafe".toList, by decide, List.all_eq_true.mp (by decide)⟩
      (endsWord_cons isWordChar_accent " : Base".toList)
  have hhead : ∃ c rest, accentedLine = c :: rest ∧ Text.isBlank c = false ∧ c ≠ '[' :=
    ⟨'p', "ublic class Cafe\u0301 : Base".toList, rfl, by decide, by decide⟩
  -- The bases would stand behind the name, but a mark stands there.
  have hclass : ScanState.addLine accentedFile {} 1 accentedLine =
      { ScanState.addClass {} accentedFile 1 ⟨"Cafe".toList, []⟩ with waiting := none } := by
    rw [ScanState.addLine_code atRest_empty.outsideComments (by decide) hhead,
      ScanState.foldl_brace_of_avoids (by decide), ScanState.addCode, hfind]
    rfl
  have hclasses : classesOf accentedSource accentedFile =
      [⟨"Cafe".toList, accentedFile, 1, [], [], []⟩] := by
    rw [classesOf, hlines]
    show (ScanState.after accentedFile {} 1 [accentedLine, ['{'], ['}']]).classes = _
    rw [ScanState.after_cons, hclass, ScanState.after_cons,
      ScanState.addLine_brace ⟨rfl, rfl⟩ (.inl rfl), ScanState.after_cons,
      ScanState.addLine_brace ⟨rfl, rfl⟩ (.inr rfl)]
    rfl
  rw [hclasses]
  exact ⟨rfl, by decide⟩

end RouteAtlas.Controllers
