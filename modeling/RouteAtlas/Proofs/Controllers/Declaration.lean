import Mathlib.Data.List.Basic
import RouteAtlas.Proofs.Controllers.Word

/-!
# Declarations that were written down

A class is written as `public class N : B1, B2`, and a method as `public void M() { }` or with
`private`. What is read of the lines is what was written: of a class its name and its bases
(`ClassText.find?_line`), of a method its name and whether it is public (`MethodText.read?_line`).
A method is not taken for a class, even if its name starts with the word that classes are declared
by (`MethodText.find?_line`).

The names of classes and methods are words. A base may be any name without blanks and signs, as long
as `where` is no word of it: the bases end in front of that word.

The two searches are of different kinds. A class may be declared anywhere in a line, so its word is
looked for from each character on, and the word is found in its place because nothing in front of it
looks like it. A method has to begin with a modifier, and then its name is the first word behind
which an argument list may open; in front of it there is only the type, which is no such word.
-/

namespace RouteAtlas

namespace Text

/-- There is nothing to trim where there are no blanks. -/
theorem trim_of_unblank {s : Text} (h : ∀ c ∈ s, isBlank c = false) : trim s = s := by
  have hstart (u : Text) (hu : ∀ c ∈ u, isBlank c = false) : u.dropWhile isBlank = u := by
    cases u with
    | nil => rfl
    | cons c u => exact trimStart_cons (hu c List.mem_cons_self) u
  rw [trim, trimWhile, dropEndWhile, hstart s h,
    hstart s.reverse fun c hc => h c (List.mem_reverse.mp hc), List.reverse_reverse]

/-- What is true of the glue and of all parts is true of what they make. -/
theorem forall_mem_joinWith {P : Char → Prop} {glue : Text} {parts : List Text}
    (hglue : ∀ c ∈ glue, P c) (hparts : ∀ part ∈ parts, ∀ c ∈ part, P c) :
    ∀ c ∈ joinWith glue parts, P c := by
  induction parts with
  | nil =>
    intro c hc
    cases hc
  | cons part rest ih =>
    rw [List.forall_mem_cons] at hparts
    cases rest with
    | nil =>
      rw [joinWith, List.intercalate_singleton]
      exact hparts.1
    | cons next rest =>
      rw [joinWith, List.intercalate_cons_cons, List.append_assoc, List.forall_mem_append,
        List.forall_mem_append]
      exact ⟨hparts.1, hglue, ih hparts.2⟩

end Text

namespace Controllers

/-! ## Bases -/

/-- A text stands in another one as a word. -/
def StandsIn (word s : Text) : Prop :=
  ∃ front back, s = front ++ word ++ back ∧ EndsWord front.reverse ∧ EndsWord back

/-- A base class to be written, by its simple name. -/
structure BaseText where
  text : Text
  text_ne : text ≠ []
  unblank : ∀ c ∈ text, Text.isBlank c = false
  avoids : Avoids text [',', '<', '.', '{', '}', '"', '/']
  unconstrained : ¬ StandsIn "where".toList text

/-- Bases as they are written. -/
def basesText (bases : List BaseText) : Text :=
  Text.joinWith ", ".toList (bases.map BaseText.text)

/-- A word goes on behind a text. -/
def goesOn (inWord : Bool) (s : Text) : Bool := (s.getLast?.map Text.isWordChar).getD inWord

/-- A text in which the word for constraints does not stand is passed over. The word may begin right
at its beginning if another word goes on there. -/
theorem beforeConstraints_append {inWord : Bool} {s rest : Text} (hrest : EndsWord rest)
    (h : ∀ front back, s = front ++ "where".toList ++ back → EndsWord back →
      goesOn inWord front = true) :
    beforeConstraints inWord (s ++ rest) = s ++ beforeConstraints (goesOn inWord s) rest := by
  induction s generalizing inWord with
  | nil => rfl
  | cons c s ih =>
    have hgoes (u : Text) : goesOn inWord (c :: u) = goesOn (Text.isWordChar c) u := by
      unfold goesOn
      cases u with
      | nil => rfl
      | cons d u =>
        rw [List.getLast?_cons_cons]
        cases hlast : (d :: u).getLast? with
        | none => simp at hlast
        | some last => rfl
    have htail : beforeConstraints (Text.isWordChar c) (s ++ rest) =
        s ++ beforeConstraints (goesOn inWord (c :: s)) rest := by
      rw [hgoes]
      refine ih fun front back hs hback => ?_
      rw [← hgoes]
      exact h (c :: front) back (by rw [hs]; rfl) hback
    rw [List.cons_append, beforeConstraints]
    split
    next after hafter =>
      rw [if_neg, htail]
      · rfl
      intro hkeyword
      rw [Bool.and_eq_true, Bool.not_eq_true', Bool.not_eq_true'] at hkeyword
      obtain ⟨houtside, hkeyword⟩ := hkeyword
      have hends : EndsWord after := by
        intro d hd
        have hd : after.head? = some d := hd
        rw [hd] at hkeyword
        simpa using hkeyword
      -- The word stands in the text, right at its beginning: it cannot go on behind the text.
      have hword : "where".toList ++ after = (c :: s) ++ rest :=
        List.append_eq_of_isPrefixOf?_eq_some hafter
      obtain ⟨back, hback, rfl⟩ :=
        exists_back_of_append (List.all_eq_true.mp (by decide)) hrest hword
      have hin := h [] back (by rw [hback]; rfl) hends.of_append
      rw [goesOn, houtside] at hin
      cases hin
    next =>
      rw [if_neg (by simp), htail]
      rfl

/-- The word that ends the bases begins with one letter. -/
theorem beforeConstraints_cons {inWord : Bool} {c : Char} (h : c ≠ 'w') (rest : Text) :
    beforeConstraints inWord (c :: rest) = c :: beforeConstraints (Text.isWordChar c) rest := by
  have hprefix : "where".toList.isPrefixOf? (c :: rest) = none := by
    have hne : ('w' == c) = false := beq_eq_false_iff_ne.mpr (Ne.symm h)
    show ('w' :: "here".toList).isPrefixOf? (c :: rest) = none
    rw [List.isPrefixOf?, hne]
    rfl
  rw [beforeConstraints, hprefix]
  simp

namespace BaseText

/-- A base is passed over in the search for constraints. -/
theorem beforeConstraints_text (b : BaseText) {rest : Text} (hrest : EndsWord rest) :
    beforeConstraints false (b.text ++ rest) =
      b.text ++ beforeConstraints (goesOn false b.text) rest := by
  refine beforeConstraints_append hrest fun front back htext hback => ?_
  cases hgoes : goesOn false front with
  | true => rfl
  | false =>
    refine absurd ⟨front, back, htext, ?_, hback⟩ b.unconstrained
    intro c hc
    rw [List.head?_reverse] at hc
    have hc : front.getLast? = some c := hc
    simpa [goesOn, hc] using hgoes

/-- The blank in front of a base is no part of it. -/
theorem simpleName_text (b : BaseText) : simpleName (' ' :: b.text) = b.text := by
  have htrim : Text.trim (' ' :: b.text) = b.text := by
    have hskip : Text.trim (' ' :: b.text) = Text.trim b.text := by
      rw [Text.trim, Text.trimWhile, List.dropWhile_cons, if_pos (by decide)]
      rfl
    rw [hskip, Text.trim_of_unblank b.unblank]
  have hangle : b.text.takeWhile (· != '<') = b.text := by
    rw [List.takeWhile_eq_self_iff]
    intro c hc
    have hne := b.avoids c hc
    simp at hne
    simp [hne]
  have hdot : b.text.reverse.takeWhile (· != '.') = b.text.reverse := by
    rw [List.takeWhile_eq_self_iff]
    intro c hc
    have hne := b.avoids c (List.mem_reverse.mp hc)
    simp at hne
    simp [hne]
  rw [simpleName, htrim, hangle, hdot, List.reverse_reverse, Text.trim_of_unblank b.unblank]

end BaseText

/-- The bases with a blank in front of each. -/
def spacedBases (bases : List BaseText) : List Text := bases.map fun b => ' ' :: b.text

/-- Bases are written with a comma and a blank between them. -/
theorem blank_basesText {bases : List BaseText} (h : bases ≠ []) :
    ' ' :: basesText bases = [','].intercalate (spacedBases bases) := by
  unfold basesText spacedBases Text.joinWith
  induction bases with
  | nil => exact absurd rfl h
  | cons b bases ih =>
    cases bases with
    | nil => rfl
    | cons next rest =>
      have hrest := ih (by simp)
      simp only [List.map_cons] at hrest ⊢
      rw [List.intercalate_cons_cons, List.intercalate_cons_cons, ← hrest]
      simp

/-- No constraint begins in the bases. -/
theorem beforeConstraints_bases (bases : List BaseText) (inWord : Bool) :
    beforeConstraints inWord ([','].intercalate (spacedBases bases)) =
      [','].intercalate (spacedBases bases) := by
  have hblank : Text.isWordChar ' ' = false := by decide
  have hcomma : Text.isWordChar ',' = false := by decide
  induction bases generalizing inWord with
  | nil => rfl
  | cons b bases ih =>
    cases bases with
    | nil =>
      have hend := b.beforeConstraints_text endsWord_nil
      rw [List.append_nil, beforeConstraints, List.append_nil] at hend
      rw [spacedBases, List.map_cons, List.map_nil, List.intercalate_singleton,
        beforeConstraints_cons (by decide), hblank, hend]
    | cons next rest =>
      have hrest := ih (Text.isWordChar ',')
      unfold spacedBases at hrest ⊢
      rw [List.map_cons] at hrest
      rw [List.map_cons, List.map_cons, List.intercalate_cons_cons, List.append_assoc,
        List.cons_append, List.singleton_append, beforeConstraints_cons (by decide), hblank,
        b.beforeConstraints_text (endsWord_cons hcomma _), beforeConstraints_cons (by decide),
        hrest]

/-- The bases that are read are those that were written. -/
theorem baseNames_basesText {bases : List BaseText} (h : bases ≠ []) :
    baseNames (' ' :: basesText bases) = bases.map BaseText.text := by
  have hcommas : ∀ part ∈ spacedBases bases, ',' ∉ part := by
    intro part hpart
    obtain ⟨b, -, rfl⟩ := List.mem_map.mp hpart
    rw [List.mem_cons, not_or]
    exact ⟨by decide, fun hmem => b.avoids ',' hmem (by simp)⟩
  have hparts : spacedBases bases ≠ [] := by simpa [spacedBases] using h
  have hnames : (spacedBases bases).map simpleName = bases.map BaseText.text := by
    rw [spacedBases, List.map_map]
    exact List.map_congr_left fun b _ => b.simpleName_text
  rw [baseNames, blank_basesText h, beforeConstraints_bases, List.splitOn_intercalate ',' hcommas
    hparts, hnames, List.filter_eq_self]
  intro name hname
  obtain ⟨b, -, rfl⟩ := List.mem_map.mp hname
  simpa using b.text_ne

/-! ## Classes -/

/-- The name of a class goes as far as the word does, and what follows it are its bases. -/
theorem find?_class (w : Word) {rest : Text} (h : EndsWord rest) :
    ClassHead.find? ("public class ".toList ++ (w.text ++ rest)) =
      some ⟨w.text, basesBehind rest⟩ := by
  have hskip : ClassHead.find? ("public class ".toList ++ (w.text ++ rest)) =
      (classHeadAt? ("class ".toList ++ (w.text ++ rest))).or
        (classHeadFrom? true ("lass ".toList ++ (w.text ++ rest))) := rfl
  have hat : classHeadAt? ("class ".toList ++ (w.text ++ rest)) =
      some ⟨w.text, basesBehind rest⟩ := by
    have hstart : Text.trimStart (' ' :: (w.text ++ rest)) = w.text ++ rest :=
      w.trimStart_append rest
    have hkeyword : "class".toList.isPrefixOf? ("class ".toList ++ (w.text ++ rest)) =
        some (' ' :: (w.text ++ rest)) := rfl
    unfold classHeadAt?
    rw [hkeyword]
    dsimp only [bind, Option.bind]
    rw [if_neg (by simp [Text.isBlank]), hstart, w.splitWord_append h]
    dsimp only
    rw [if_neg (by simpa using w.text_ne)]
  rw [hskip, hat]
  rfl

/-- The declaration of a class without its attributes. -/
structure ClassText where
  name : Word
  bases : List BaseText

namespace ClassText

/-- What stands behind the name: a colon and the bases, if there are any. -/
def tail (c : ClassText) : Text :=
  if c.bases = [] then [] else " : ".toList ++ basesText c.bases

/-- The declaration on a line of its own. -/
def line (c : ClassText) : Text := "public class ".toList ++ (c.name.text ++ c.tail)

variable (c : ClassText)

theorem avoids_basesText (bases : List BaseText) :
    Avoids (basesText bases) ['{', '}', '"', '/'] := by
  have hglue : Avoids ", ".toList ['{', '}', '"', '/'] := by decide
  refine Text.forall_mem_joinWith hglue fun part hpart c hc hmark => ?_
  obtain ⟨b, -, rfl⟩ := List.mem_map.mp hpart
  exact b.avoids c hc (by simp at hmark ⊢; tauto)

/-- **The bases that are read** are those that were written. -/
theorem basesBehind_tail : basesBehind c.tail = c.bases.map BaseText.text := by
  unfold tail
  by_cases h : c.bases = []
  · rw [if_pos h, h]
    rfl
  · rw [if_neg h]
    have hcolon : Text.trimStart (skipAngles (· == '{') (Text.trimStart
        (" : ".toList ++ basesText c.bases))) = ':' :: ' ' :: basesText c.bases := by
      rfl
    have hbrace : (' ' :: basesText c.bases).takeWhile (· != '{') = ' ' :: basesText c.bases := by
      rw [List.takeWhile_cons, if_pos (by decide), List.takeWhile_eq_self_iff.mpr]
      intro d hd
      have hne := avoids_basesText c.bases d hd
      simp at hne
      simp [hne]
    rw [basesBehind, hcolon]
    show baseNames ((' ' :: basesText c.bases).takeWhile (· != '{')) = _
    rw [hbrace, baseNames_basesText h]

/-- What is read of the line of a class is its name and its bases. -/
theorem find?_line :
    ClassHead.find? c.line = some ⟨c.name.text, c.bases.map BaseText.text⟩ := by
  have htail : EndsWord c.tail := by
    unfold tail
    split
    · exact endsWord_nil
    · exact endsWord_cons (by decide) _
  have hname : ClassHead.find? c.line = some ⟨c.name.text, basesBehind c.tail⟩ :=
    find?_class c.name htail
  rw [hname, c.basesBehind_tail]

theorem line_ne_nil : c.line ≠ [] := by
  unfold line
  exact List.append_ne_nil_of_left_ne_nil (by decide) _

/-- There are no strings, comments and braces on the line of a class. -/
theorem avoids_line : Avoids c.line ['{', '}', '"', '/'] := by
  refine Avoids.append (by decide) (Avoids.append (c.name.avoids (by decide)) ?_)
  unfold tail
  split
  · exact fun _ h => by cases h
  · exact Avoids.append (by decide) (avoids_basesText c.bases)

theorem isLine_line : Text.IsLine c.line := by
  have hbases : Text.IsLine (basesText c.bases) := by
    have hglue : Text.IsLine ", ".toList := by decide
    refine Text.forall_mem_joinWith hglue fun part hpart d hd => ?_
    obtain ⟨b, -, rfl⟩ := List.mem_map.mp hpart
    exact Text.endsLine_of_not_isBlank (b.unblank d hd)
  refine Text.IsLine.append (by decide) (c.name.isLine.append ?_)
  unfold tail
  split
  · exact fun _ h => by cases h
  · exact Text.IsLine.append (by decide) hbases

end ClassText

/-! ## Methods -/

/-- The declaration of a method without its attributes. -/
structure MethodText where
  isPublic : Bool
  name : Word

namespace MethodText

/-- The word that tells who may call the method. -/
def modifier (m : MethodText) : Text := if m.isPublic then "public".toList else "private".toList

/-- What stands between the modifier and the braces. -/
def signature (m : MethodText) : Text := "void ".toList ++ (m.name.text ++ "() ".toList)

/-- What stands before the braces. -/
def front (m : MethodText) : Text := m.modifier ++ ' ' :: m.signature

/-- The declaration on a line of its own. -/
def line (m : MethodText) : Text := m.front ++ "{ }".toList

variable (m : MethodText)

/-- What stands in front of the body of a method holds no braces, quotes or slashes. -/
theorem avoids_front : Avoids m.front ['{', '}', '"', '/'] := by
  have hmodifier : Avoids m.modifier ['{', '}', '"', '/'] := by
    unfold modifier
    cases m.isPublic <;> decide
  refine hmodifier.append (avoids_cons.mpr ⟨by decide, Avoids.append (by decide) ?_⟩)
  exact (m.name.avoids (by decide)).append (by decide)

theorem line_ne_nil : m.line ≠ [] := by
  unfold line
  exact List.append_ne_nil_of_right_ne_nil _ (by decide)

/-- There are no strings and comments on the line of a method. -/
theorem isPlain_line : IsPlain m.line :=
  Avoids.append (m.avoids_front.mono (by decide)) (by decide)

theorem isLine_line : Text.IsLine m.line := by
  have hmodifier : Text.IsLine m.modifier := by
    unfold modifier
    cases m.isPublic <;> decide
  have hsignature : Text.IsLine (' ' :: m.signature) :=
    (show Text.IsLine " void ".toList by decide).append (m.name.isLine.append (by decide))
  exact (hmodifier.append hsignature).append (by decide)

/-- Without an opening one there are no angle brackets to be skipped. -/
theorem skipAngles_of_ne {s : Text} (h : s.head? ≠ some '<') (forbidden : Char → Bool) :
    skipAngles forbidden s = s := by
  unfold skipAngles
  split
  next => exact absurd rfl h
  next => rfl

/-- The name is what is called. -/
theorem calledName?_signature (rest : Text) :
    calledName? false (m.signature ++ rest) = some m.name.text := by
  obtain ⟨c, tail, hcons, hc⟩ := m.name.exists_cons
  have hends : EndsWord ("() ".toList ++ rest) := endsWord_cons (by decide) _
  have hword := m.name.takeWhile_append hends
  have hrest := m.name.dropWhile_append hends
  rw [hcons, List.cons_append] at hword hrest
  rw [List.takeWhile_cons, if_pos hc] at hword
  rw [List.dropWhile_cons, if_pos hc] at hrest
  have hopens : opensCall ("() ".toList ++ rest) = true := rfl
  -- What comes before the name is a type: it is not called.
  have htype : opensCall (' ' :: (m.name.text ++ ("() ".toList ++ rest))) = false := by
    have hstart : Text.trimStart (' ' :: (m.name.text ++ ("() ".toList ++ rest))) =
        m.name.text ++ ("() ".toList ++ rest) := m.name.trimStart_append _
    have hne (d : Char) (hd : Text.isWordChar d = false) : c ≠ d := by
      rintro rfl
      rw [hc] at hd
      cases hd
    have hangle : (m.name.text ++ ("() ".toList ++ rest)).head? ≠ some '<' := by
      rw [hcons]
      simpa using hne '<' (by decide)
    unfold opensCall
    rw [hstart, skipAngles_of_ne hangle]
    dsimp only
    rw [m.name.trimStart_append, hcons]
    simpa using hne '(' (by decide)
  have hskip : calledName? false (m.signature ++ rest) =
      if (true && true && opensCall (' ' :: (m.name.text ++ ("() ".toList ++ rest)))) = true then
        some "void".toList
      else calledName? false (m.name.text ++ ("() ".toList ++ rest)) := by
    unfold signature
    rw [List.append_assoc, List.append_assoc]
    rfl
  rw [hskip, htype, if_neg (by simp), hcons, List.cons_append, calledName?]
  rw [hrest, hopens, hc, hword, if_pos (by simp)]

/-- The only modifier is the first word of the line; the next one is the type, which is none. -/
theorem modifiersOf_line (fuel : Nat) :
    modifiersOf (fuel + 1) m.line = [(m.modifier, m.signature ++ "{ }".toList)] := by
  have hsplit : splitWord m.line = (m.modifier, ' ' :: (m.signature ++ "{ }".toList)) := by
    rw [line, front, List.append_assoc, List.cons_append]
    unfold modifier
    cases m.isPublic <;> rfl
  have hafter : Text.trimStart (' ' :: (m.signature ++ "{ }".toList)) =
      m.signature ++ "{ }".toList := rfl
  have hmodifier : modifierWords.contains m.modifier = true := by
    unfold modifier
    cases m.isPublic <;> decide
  have htype : modifiersOf fuel (m.signature ++ "{ }".toList) = [] := by
    cases fuel with
    | zero => rfl
    | succ fuel =>
      have hword : (splitWord (m.signature ++ "{ }".toList)).1 = "void".toList := rfl
      have hnot : modifierWords.contains "void".toList = false := by decide
      rw [modifiersOf]
      dsimp only
      rw [hword, hnot, if_neg (by simp)]
  rw [modifiersOf, hsplit]
  dsimp only
  rw [hafter, hmodifier, htype, if_pos (by simp)]

/-- Of a method its only modifier and its name are read. -/
theorem read?_line : MethodHead.read? m.line = some ⟨[m.modifier], m.name.text⟩ := by
  have hstart : Text.trimStart m.line = m.line := by
    unfold line front modifier
    cases m.isPublic <;> rfl
  have hlength : m.line.length = m.line.length - 1 + 1 := by
    have hpos := List.length_pos_iff.mpr m.line_ne_nil
    omega
  rw [MethodHead.read?, hstart, hlength, m.modifiersOf_line, methodHeadFrom?, methodHeadFrom?,
    m.calledName?_signature]
  rfl

/-- No class is declared within a word, nor right behind one that goes on. -/
theorem classHeadFrom?_append {s : Text} (h : ∀ c ∈ s, Text.isWordChar c = true) (rest : Text) :
    classHeadFrom? true (s ++ rest) = classHeadFrom? true rest := by
  induction s with
  | nil => rfl
  | cons c s ih =>
    rw [List.forall_mem_cons] at h
    rw [List.cons_append, classHeadFrom?, h.1, ih h.2]
    rfl

/-- A name with a parenthesis behind it does not declare a class, whatever it starts with. -/
theorem classHeadAt?_name (w : Word) (rest : Text) :
    classHeadAt? (w.text ++ '(' :: rest) = none := by
  unfold classHeadAt?
  cases hprefix : "class".toList.isPrefixOf? (w.text ++ '(' :: rest) with
  | none => rfl
  | some after =>
    have hends : EndsWord ('(' :: rest) := endsWord_cons (by decide) rest
    obtain ⟨back, hback, rfl⟩ := exists_back_of_append (List.all_eq_true.mp (by decide)) hends
      (List.append_eq_of_isPrefixOf?_eq_some hprefix)
    have hblank : ((back ++ '(' :: rest).head?.map Text.isBlank).getD false = false := by
      cases back with
      | nil => rfl
      | cons c back => exact Text.isBlank_of_isWordChar (w.isWordChar c (by rw [hback]; simp))
    dsimp only [bind, Option.bind]
    rw [hblank]
    rfl

/-- A method is not taken for a class. -/
theorem find?_line : ClassHead.find? m.line = none := by
  obtain ⟨c, tail, hcons, hc⟩ := m.name.exists_cons
  have htail : ∀ d ∈ tail, Text.isWordChar d = true :=
    fun d hd => m.name.isWordChar d (by simp [hcons, hd])
  have hskip : ClassHead.find? m.line =
      classHeadFrom? false (m.name.text ++ '(' :: ") { }".toList) := by
    unfold line front signature modifier
    rw [List.append_assoc, List.cons_append, List.append_assoc, List.append_assoc]
    cases m.isPublic <;> rfl
  have hat := classHeadAt?_name m.name ") { }".toList
  rw [hcons, List.cons_append] at hat
  rw [hskip, hcons, List.cons_append, classHeadFrom?, hat, hc, classHeadFrom?_append htail]
  rfl

end MethodText

end Controllers

end RouteAtlas
