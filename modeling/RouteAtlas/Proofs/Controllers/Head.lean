import RouteAtlas.Proofs.Controllers.Declaration

/-!
# Declarations in front of a literal

A declaration that is over where a literal begins is read as it is, whatever follows: a quote mark
goes on with no word, no blank and no type. Declarations are searched as a name with what stands
behind it (`declaredFrom?`). A class is over if its angle brackets are closed and a brace follows
its bases (`basesAreOpen`), and a method if the angle brackets behind every word that may be its
name are closed (`callIsOpen`).

The main statements say what is found in a text with a quote mark in it: a class as in front of the
mark or else as behind it (`find?_append`), a method as in front of the mark
(`MethodHead.read?_append`).

The search goes along the text character by character and tries to read a declaration at each of
them. Each reader in turn takes what it wants from the front: a word, blanks, brackets, a list of
bases. So the lemmas go through the readers in that order, and each says that its reader takes the
same with the mark behind the text, since it does not take the mark itself. Only angle brackets and
bases run over a mark, and for them it has to be known that they are over.
-/

namespace RouteAtlas.Controllers

/-! ## Texts in front of a mark -/

section Mark

variable {p : Char → Bool} {q : Char}

/-- What is taken from the front ends at the mark at the latest. -/
theorem takeWhile_append_cons (h : p q = false) (s rest : Text) :
    (s ++ q :: rest).takeWhile p = s.takeWhile p := by
  induction s with
  | nil => simp [h]
  | cons c s ih => cases hc : p c <;> simp [hc, ih]

theorem dropWhile_append_cons (h : p q = false) (s rest : Text) :
    (s ++ q :: rest).dropWhile p = s.dropWhile p ++ q :: rest := by
  induction s with
  | nil => simp [h]
  | cons c s ih => cases hc : p c <;> simp [hc, ih]

/-- What is dropped ends within a text of which something is left. -/
theorem dropWhile_append_of_ne_nil {s : Text} (h : s.dropWhile p ≠ []) (rest : Text) :
    (s ++ rest).dropWhile p = s.dropWhile p ++ rest := by
  rw [List.dropWhile_append, if_neg (by simpa using h)]

/-- A word without the mark stands at the beginning, or it does not. -/
theorem isPrefixOf?_append_cons {word : Text} (h : q ∉ word) (s rest : Text) :
    word.isPrefixOf? (s ++ q :: rest) = (word.isPrefixOf? s).map (· ++ q :: rest) := by
  induction word generalizing s with
  | nil => simp [List.isPrefixOf?]
  | cons w word ih =>
    rw [List.mem_cons, not_or] at h
    cases s with
    | nil => simp [List.isPrefixOf?, Ne.symm h.1]
    | cons c s =>
      rw [List.cons_append, List.isPrefixOf?, List.isPrefixOf?, ih h.2]
      split <;> rfl

end Mark

/-- The characters between which literals stand. -/
def quoteMarks : List Char := ['"', '\'']

variable {q : Char}

theorem eq_of_mem_quoteMarks (hq : q ∈ quoteMarks) : q = '"' ∨ q = '\'' := by
  simpa [quoteMarks] using hq

theorem isWordChar_of_mem_quoteMarks (hq : q ∈ quoteMarks) : Text.isWordChar q = false := by
  rcases eq_of_mem_quoteMarks hq with rfl | rfl <;> decide

theorem isBlank_of_mem_quoteMarks (hq : q ∈ quoteMarks) : Text.isBlank q = false := by
  rcases eq_of_mem_quoteMarks hq with rfl | rfl <;> decide

/-- A quote mark is none of the signs that declarations are read by. -/
theorem not_mem_of_mem_quoteMarks (hq : q ∈ quoteMarks) : q ∉ "<>(){}[]:,.?class".toList := by
  rcases eq_of_mem_quoteMarks hq with rfl | rfl <;> decide

theorem trimStart_append_mark (hq : q ∈ quoteMarks) (s rest : Text) :
    Text.trimStart (s ++ q :: rest) = Text.trimStart s ++ q :: rest :=
  dropWhile_append_cons (isBlank_of_mem_quoteMarks hq) s rest

/-! ## Angle brackets -/

/-- Angle brackets open here that are not closed within the text, and nothing in it forbids that
they go on. -/
def anglesAreOpen (forbidden : Char → Bool) (s : Text) : Bool :=
  match s with
  | '<' :: rest => (rest.dropWhile fun c => c != '>' && !forbidden c).isEmpty
  | _ => false

/-- Angle brackets that are closed are skipped in front of the mark. -/
theorem skipAngles_append (hq : q ∈ quoteMarks) {forbidden : Char → Bool} {s : Text}
    (h : anglesAreOpen forbidden s = false) (rest : Text) :
    skipAngles forbidden (s ++ q :: rest) = skipAngles forbidden s ++ q :: rest := by
  by_cases hopens : s.head? = some '<'
  · obtain ⟨s, rfl⟩ := List.head?_eq_some_iff.mp hopens
    -- They are closed, or what is forbidden within them comes first; in both cases before the mark.
    have hleft : (s.dropWhile fun c => c != '>' && !forbidden c) ≠ [] := by
      intro hnil
      rw [anglesAreOpen, hnil] at h
      cases h
    obtain ⟨c, after, hcons⟩ := List.exists_cons_of_ne_nil hleft
    rw [List.cons_append, skipAngles, skipAngles, dropWhile_append_of_ne_nil hleft, hcons]
    by_cases hclose : c = '>'
    · rw [hclose]
      rfl
    · rw [List.cons_append]
      split
      next heq => exact absurd (List.cons.inj heq).1 hclose
      next =>
        split
        next heq => exact absurd (List.cons.inj heq).1 hclose
        next => rfl
  · have hmark : (s ++ q :: rest).head? ≠ some '<' := by
      cases s with
      | nil =>
        rintro ⟨⟩
        exact not_mem_of_mem_quoteMarks hq (by decide)
      | cons c s => exact hopens
    rw [MethodText.skipAngles_of_ne hmark, MethodText.skipAngles_of_ne hopens]

/-! ## Classes -/

/-- What follows the name of a class goes on at the end of the text: with angle brackets, or with
bases. -/
def basesAreOpen (s : Text) : Bool :=
  anglesAreOpen (· == '{') (Text.trimStart s) ||
    match Text.trimStart (skipAngles (· == '{') (Text.trimStart s)) with
    | ':' :: rest => !rest.contains '{'
    | _ => false

/-- The bases are those in front of the brace. -/
theorem basesBehind_append (hq : q ∈ quoteMarks) {s : Text} (h : basesAreOpen s = false)
    (rest : Text) : basesBehind (s ++ q :: rest) = basesBehind s := by
  rw [basesAreOpen, Bool.or_eq_false_iff] at h
  obtain ⟨hangles, hbases⟩ := h
  rw [basesBehind, basesBehind, trimStart_append_mark hq, skipAngles_append hq hangles,
    trimStart_append_mark hq]
  cases hbehind : Text.trimStart (skipAngles (· == '{') (Text.trimStart s)) with
  | nil =>
    have hcolon : q ≠ ':' := by
      rintro rfl
      exact not_mem_of_mem_quoteMarks hq (by decide)
    rw [List.nil_append]
    split
    next heq => exact absurd (List.cons.inj heq).1 hcolon
    next => rfl
  | cons c bases =>
    rw [hbehind] at hbases
    rw [List.cons_append]
    by_cases hcolon : c = ':'
    · subst hcolon
      have hbrace : '{' ∈ bases := by simpa using hbases
      -- The brace that ends the bases stands in front of the mark.
      have htake : (bases ++ q :: rest).takeWhile (· != '{') = bases.takeWhile (· != '{') := by
        obtain ⟨front, back, rfl⟩ := List.append_of_mem hbrace
        rw [List.append_assoc, List.cons_append, takeWhile_append_cons (by decide),
          takeWhile_append_cons (by decide)]
      show baseNames ((bases ++ q :: rest).takeWhile (· != '{')) = _
      rw [htake]
      rfl
    · split
      next heq => exact absurd (List.cons.inj heq).1 hcolon
      next =>
        split
        next heq => exact absurd (List.cons.inj heq).1 hcolon
        next => rfl

/-- The name of the class that is declared at the beginning of a text, and what follows that
name. -/
def declaredAt? (s : Text) : Option (Text × Text) :=
  match "class".toList.isPrefixOf? s with
  | some (c :: rest) =>
    let declared := splitWord (Text.trimStart (c :: rest))
    if Text.isBlank c && !declared.1.isEmpty then some declared else none
  | _ => none

/-- The name of the first class that is declared in a text, and what follows that name. -/
def declaredFrom? (inWord : Bool) : Text → Option (Text × Text)
  | [] => none
  | c :: rest =>
    (if inWord then none else declaredAt? (c :: rest)).or (declaredFrom? (Text.isWordChar c) rest)

/-- The head of a class of this name with this behind it. -/
def headOf (declared : Text × Text) : ClassHead := ⟨declared.1, basesBehind declared.2⟩

/-- A head is a name and what is read behind it. -/
theorem classHeadAt?_eq (s : Text) : classHeadAt? s = (declaredAt? s).map headOf := by
  unfold classHeadAt? declaredAt?
  cases "class".toList.isPrefixOf? s with
  | none => rfl
  | some rest =>
    cases rest with
    | nil => rfl
    | cons c rest =>
      dsimp only [bind, Option.bind]
      rw [List.head?_cons, Option.map_some, Option.getD_some]
      cases hblank : Text.isBlank c with
      | false => simp
      | true =>
        cases hname : (splitWord (Text.trimStart (c :: rest))).1.isEmpty with
        | true => simp
        | false => simp [headOf]

theorem classHeadFrom?_eq (inWord : Bool) (s : Text) :
    classHeadFrom? inWord s = (declaredFrom? inWord s).map headOf := by
  induction s generalizing inWord with
  | nil => rfl
  | cons c s ih =>
    rw [classHeadFrom?, declaredFrom?, ih, classHeadAt?_eq, Option.map_or]
    cases inWord <;> rfl

/-- A declaration has a blank behind the word that it begins with. -/
theorem exists_of_declaredAt? {s : Text} {declared : Text × Text}
    (h : declaredAt? s = some declared) :
    ∃ blank rest, s = "class".toList ++ blank :: rest ∧ Text.isBlank blank = true := by
  unfold declaredAt? at h
  cases hletters : "class".toList.isPrefixOf? s with
  | none =>
    rw [hletters] at h
    cases h
  | some rest =>
    rw [hletters] at h
    have hs := List.append_eq_of_isPrefixOf?_eq_some hletters
    cases rest with
    | nil => cases h
    | cons blank rest =>
      refine ⟨blank, rest, hs.symm, ?_⟩
      by_contra hblank
      simp [hblank] at h

/-- What is found stands behind the word for classes and a blank. -/
theorem exists_of_declaredFrom? {inWord : Bool} {s : Text} {declared : Text × Text}
    (h : declaredFrom? inWord s = some declared) :
    ∃ front blank rest, s = front ++ ("class".toList ++ blank :: rest) ∧
      Text.isBlank blank = true := by
  induction s generalizing inWord with
  | nil => cases h
  | cons c s ih =>
    rw [declaredFrom?, Option.or_eq_some_iff] at h
    rcases h with hhere | ⟨-, hlater⟩
    · cases inWord with
      | true => cases hhere
      | false =>
        obtain ⟨blank, rest, hs, hblank⟩ := exists_of_declaredAt? hhere
        exact ⟨[], blank, rest, hs, hblank⟩
    · obtain ⟨front, blank, rest, rfl, hblank⟩ := ih hlater
      exact ⟨c :: front, blank, rest, rfl, hblank⟩

/-- More text behind what follows a word. -/
def goingOn (rest : Text) (word : Text × Text) : Text × Text := (word.1, word.2 ++ rest)

theorem splitWord_append_mark (hq : q ∈ quoteMarks) (s rest : Text) :
    splitWord (s ++ q :: rest) = goingOn (q :: rest) (splitWord s) := by
  have hword := isWordChar_of_mem_quoteMarks hq
  rw [splitWord, takeWhile_append_cons hword, dropWhile_append_cons hword]
  rfl

/-- A name with what stands behind it, which goes on with the mark. -/
theorem declaredAt?_append (hq : q ∈ quoteMarks) (s rest : Text) :
    declaredAt? (s ++ q :: rest) = (declaredAt? s).map (goingOn (q :: rest)) := by
  -- The mark is no letter of the word for classes.
  have hletter : q ∉ "class".toList := by
    intro hmem
    have hsign : "class".toList ⊆ "<>(){}[]:,.?class".toList := by decide
    exact not_mem_of_mem_quoteMarks hq (hsign hmem)
  unfold declaredAt?
  rw [isPrefixOf?_append_cons hletter]
  cases "class".toList.isPrefixOf? s with
  | none => rfl
  | some after =>
    cases after with
    | nil => simp [isBlank_of_mem_quoteMarks hq]
    | cons c after =>
      have hsplit : splitWord (Text.trimStart (c :: (after ++ q :: rest))) =
          goingOn (q :: rest) (splitWord (Text.trimStart (c :: after))) := by
        rw [← List.cons_append, trimStart_append_mark hq, splitWord_append_mark hq]
      rw [Option.map_some, List.cons_append]
      dsimp only
      rw [hsplit]
      cases hname : Text.isBlank c && !(splitWord (Text.trimStart (c :: after))).1.isEmpty with
      | false => simp [goingOn, hname]
      | true => simp [goingOn, hname]

/-- **Where a name is declared**: in front of the mark, or else behind it. The induction is on the
text in front, with what is known of the character before it. -/
theorem declaredFrom?_append (hq : q ∈ quoteMarks) (inWord : Bool) (s rest : Text) :
    declaredFrom? inWord (s ++ q :: rest) =
      ((declaredFrom? inWord s).map (goingOn (q :: rest))).or (declaredFrom? false rest) := by
  induction s generalizing inWord with
  | nil =>
    have hmark : declaredAt? (q :: rest) = none := declaredAt?_append hq [] rest
    have hbehind : declaredFrom? inWord (q :: rest) = declaredFrom? false rest := by
      rw [declaredFrom?, hmark, isWordChar_of_mem_quoteMarks hq]
      cases inWord <;> rfl
    rw [List.nil_append, hbehind]
    rfl
  | cons c s ih =>
    have hat := declaredAt?_append hq (c :: s) rest
    rw [List.cons_append] at hat
    rw [List.cons_append, declaredFrom?, declaredFrom?, hat, ih, Option.map_or, Option.or_assoc]
    cases inWord <;> rfl

/-- The declaration of a class goes on at the end of a text. -/
def classIsOpen (code : Text) : Bool :=
  ((declaredFrom? false code).map fun declared => basesAreOpen declared.2).getD false

/-- A class is declared in front of a quote mark, or else behind it. -/
theorem find?_append (hq : q ∈ quoteMarks) {code : Text} (h : classIsOpen code = false)
    (rest : Text) :
    ClassHead.find? (code ++ q :: rest) = (ClassHead.find? code).or (ClassHead.find? rest) := by
  unfold ClassHead.find?
  rw [classHeadFrom?_eq, classHeadFrom?_eq, classHeadFrom?_eq, declaredFrom?_append hq,
    Option.map_or, Option.map_map]
  cases hdeclared : declaredFrom? false code with
  | none => rfl
  | some declared =>
    rw [classIsOpen, hdeclared] at h
    have hhead : headOf (goingOn (q :: rest) declared) = headOf declared := by
      rw [headOf, headOf, goingOn, basesBehind_append hq h]
    rw [Option.map_some, Option.map_some, Function.comp_apply, hhead]

/-! ## Methods -/

/-- Behind the angle brackets of a name there may be blanks, but no mark. -/
theorem opensCall_append (hq : q ∈ quoteMarks) {s : Text}
    (h : anglesAreOpen (fun c => c == '(' || c == ')') (Text.trimStart s) = false)
    (rest : Text) : opensCall (s ++ q :: rest) = opensCall s := by
  unfold opensCall
  rw [trimStart_append_mark hq, skipAngles_append hq h]
  dsimp only
  rw [trimStart_append_mark hq]
  cases Text.trimStart (skipAngles (fun c => c == '(' || c == ')') (Text.trimStart s)) with
  | nil =>
    have hparen : q ≠ '(' := by
      rintro rfl
      exact not_mem_of_mem_quoteMarks hq (by decide)
    simpa using hparen
  | cons c after => rfl

/-- Angle brackets are open at the end of a text behind a word that may be the name of a method. -/
def callIsOpen (inWord : Bool) : Text → Bool
  | [] => false
  | c :: rest =>
    (!inWord && Text.isWordChar c && anglesAreOpen (fun c => c == '(' || c == ')')
      (Text.trimStart (rest.dropWhile Text.isWordChar))) ||
    (isTypeChar c && callIsOpen (Text.isWordChar c) rest)

theorem isTypeChar_of_mem_quoteMarks (hq : q ∈ quoteMarks) : isTypeChar q = false := by
  rcases eq_of_mem_quoteMarks hq with rfl | rfl <;> decide

/-- **Which name is called**, with the same induction. -/
theorem calledName?_append (hq : q ∈ quoteMarks) {inWord : Bool} {s : Text}
    (h : callIsOpen inWord s = false) (rest : Text) :
    calledName? inWord (s ++ q :: rest) = calledName? inWord s := by
  have hnoWord := isWordChar_of_mem_quoteMarks hq
  induction s generalizing inWord with
  | nil =>
    have htype : isTypeChar q = false := isTypeChar_of_mem_quoteMarks hq
    rw [List.nil_append, calledName?, calledName?, hnoWord, htype]
    simp
  | cons c s ih =>
    rw [callIsOpen, Bool.or_eq_false_iff] at h
    obtain ⟨hcall, htype⟩ := h
    rw [List.cons_append, calledName?, calledName?, takeWhile_append_cons hnoWord,
      dropWhile_append_cons hnoWord]
    -- Here the name may stand
    have htests : (!inWord && Text.isWordChar c &&
          opensCall (s.dropWhile Text.isWordChar ++ q :: rest)) =
        (!inWord && Text.isWordChar c && opensCall (s.dropWhile Text.isWordChar)) := by
      cases hword : !inWord && Text.isWordChar c with
      | false => rfl
      | true =>
        rw [hword, Bool.true_and] at hcall
        rw [opensCall_append hq hcall]
    -- or later, as long as all in front may be a type.
    have hlater : (if isTypeChar c then calledName? (Text.isWordChar c) (s ++ q :: rest) else none) =
        (if isTypeChar c then calledName? (Text.isWordChar c) s else none) := by
      cases hc : isTypeChar c with
      | false => rfl
      | true =>
        rw [hc, Bool.true_and] at htype
        rw [ih htype]
    rw [htests, hlater]

/-- More room than the text is long makes no difference. -/
theorem modifiersOf_of_length_le {fuel more : Nat} {s : Text} (hfuel : s.length ≤ fuel)
    (hmore : s.length ≤ more) : modifiersOf fuel s = modifiersOf more s := by
  induction fuel generalizing more s with
  | zero =>
    obtain rfl : s = [] := List.eq_nil_of_length_eq_zero (by omega)
    cases more <;> rfl
  | succ fuel ih =>
    cases more with
    | zero =>
      obtain rfl : s = [] := List.eq_nil_of_length_eq_zero (by omega)
      rfl
    | succ more =>
      rw [modifiersOf, modifiersOf]
      dsimp only
      split
      next hmodifier =>
        rw [Bool.and_eq_true, decide_eq_true_eq] at hmodifier
        have hrest : (splitWord s).2.length ≤ s.length :=
          (List.dropWhile_suffix _).length_le
        rw [ih (by omega) (show _ ≤ more by omega)]
      next => rfl

theorem modifiersOf_append (hq : q ∈ quoteMarks) (fuel : Nat) (s rest : Text) :
    modifiersOf fuel (s ++ q :: rest) = (modifiersOf fuel s).map (goingOn (q :: rest)) := by
  induction fuel generalizing s with
  | zero => rfl
  | succ fuel ih =>
    rw [modifiersOf, modifiersOf, splitWord_append_mark hq]
    dsimp only [goingOn]
    rw [trimStart_append_mark hq, ih]
    have hshorter : ((Text.trimStart (splitWord s).2 ++ q :: rest).length <
        ((splitWord s).2 ++ q :: rest).length) ↔
          (Text.trimStart (splitWord s).2).length < (splitWord s).2.length := by
      simp
    simp only [hshorter]
    split <;> rfl

theorem methodHeadFrom?_map {rest : Text} {words : List (Text × Text)}
    (h : ∀ word ∈ words, calledName? false (word.2 ++ rest) = calledName? false word.2)
    (before : List Text) :
    methodHeadFrom? before (words.map (goingOn rest)) = methodHeadFrom? before words := by
  induction words generalizing before with
  | nil => rfl
  | cons word words ih =>
    rw [List.forall_mem_cons] at h
    rw [List.map_cons, methodHeadFrom?, ih h.2]
    dsimp only [goingOn]
    rw [h.1, methodHeadFrom?]

/-- The declaration of a method goes on at the end of a text. -/
def methodIsOpen (code : Text) : Bool :=
  (modifiersOf code.length (Text.trimStart code)).any fun word => callIsOpen false word.2

/-- A method is declared in front of a quote mark or not at all. -/
theorem MethodHead.read?_append (hq : q ∈ quoteMarks) {code : Text} (h : methodIsOpen code = false)
    (rest : Text) : MethodHead.read? (code ++ q :: rest) = MethodHead.read? code := by
  have hlength : (Text.trimStart code).length ≤ code.length := (List.dropWhile_suffix _).length_le
  rw [methodIsOpen, List.any_eq_false] at h
  unfold MethodHead.read?
  rw [trimStart_append_mark hq, modifiersOf_append hq,
    modifiersOf_of_length_le (by simp; omega) hlength]
  refine methodHeadFrom?_map (fun word hword => ?_) []
  exact calledName?_append hq (by simpa using h word hword) rest

end RouteAtlas.Controllers
