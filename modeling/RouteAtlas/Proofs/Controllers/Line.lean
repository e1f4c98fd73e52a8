import RouteAtlas.Controllers.Line

/-!
# Lines of code with a string

A line without a slash and without a double quote is the same without comments and without strings.
A string in which every quote and every backslash is escaped ends where it was meant to end,
whatever else stands in it: in one view of the line it stays, and in the other nothing of it is left
but its quotes.

These are the pieces that the lines of declarations and attributes are made of: plain pieces, and
literals between them. Both views go on behind each piece as they would without it, which is what
the equations say, so that a whole line is gone through piece by piece from its beginning.
-/

namespace RouteAtlas.Controllers

/-- None of some characters is in a text. -/
def Avoids (s : Text) (marks : List Char) : Prop := ∀ c ∈ s, c ∉ marks

instance (s : Text) (marks : List Char) : Decidable (Avoids s marks) :=
  List.decidableBAll (· ∉ marks) s

/-- A text avoids some characters if its first one is none of them and the others do. -/
theorem avoids_cons {c : Char} {s : Text} {marks : List Char} :
    Avoids (c :: s) marks ↔ c ∉ marks ∧ Avoids s marks :=
  List.forall_mem_cons

/-- Texts that do do so one behind the other. -/
theorem Avoids.append {s u : Text} {marks : List Char} (hs : Avoids s marks)
    (hu : Avoids u marks) : Avoids (s ++ u) marks :=
  List.forall_mem_append.mpr ⟨hs, hu⟩

theorem Avoids.mono {s : Text} {marks more : List Char} (h : Avoids s more)
    (hsubset : marks ⊆ more) : Avoids s marks :=
  fun c hc hmark => h c hc (hsubset hmark)

/-- What does not pass a test is not in a text that passes it. -/
theorem avoids_of_forall {p : Char → Bool} {s : Text} {marks : List Char}
    (hs : ∀ c ∈ s, p c = true) (hmarks : marks.any p = false) : Avoids s marks :=
  fun c hc hmark => List.any_eq_false.mp hmarks c hmark (hs c hc)

/-- A part of a line in which neither a string nor a comment begins. -/
def IsPlain (s : Text) : Prop := Avoids s ['"', '/']

instance (s : Text) : Decidable (IsPlain s) := inferInstanceAs (Decidable (Avoids s _))

/-- A text as a string writes it: quotes and backslashes have a backslash in front. -/
def escaped (s : Text) : Text :=
  s.flatMap fun c => if c = '"' ∨ c = '\\' then ['\\', c] else [c]

/-- The string literal that denotes a text. -/
def stringLiteral (s : Text) : Text := '"' :: (escaped s ++ ['"'])

@[simp] theorem escaped_nil : escaped [] = [] := rfl

theorem escaped_cons_of_special {c : Char} (h : c = '"' ∨ c = '\\') (s : Text) :
    escaped (c :: s) = '\\' :: c :: escaped s := by
  rw [escaped, List.flatMap_cons, if_pos h]
  rfl

theorem escaped_cons_of_plain {c : Char} (h : ¬ (c = '"' ∨ c = '\\')) (s : Text) :
    escaped (c :: s) = c :: escaped s := by
  rw [escaped, List.flatMap_cons, if_neg h]
  rfl

/-- Escaping adds backslashes and nothing else. -/
theorem mem_escaped {s : Text} {c : Char} (h : c ∈ escaped s) : c ∈ s ∨ c = '\\' := by
  rw [escaped, List.mem_flatMap] at h
  obtain ⟨d, hd, hmem⟩ := h
  split at hmem
  · rw [List.mem_cons, List.mem_singleton] at hmem
    rcases hmem with rfl | rfl
    · exact .inr rfl
    · exact .inl hd
  · obtain rfl := List.mem_singleton.mp hmem
    exact .inl hd

/-- The part of a line in either view that belongs to a string which is open. -/
theorem withoutCommentsFrom_escaped (s rest : Text) :
    withoutCommentsFrom .string (escaped s ++ '"' :: rest) =
      (escaped s ++ '"' :: (withoutCommentsFrom .code rest).1,
        (withoutCommentsFrom .code rest).2) := by
  induction s with
  | nil => simp [withoutCommentsFrom]
  | cons c s ih =>
    by_cases hspecial : c = '"' ∨ c = '\\'
    · rw [escaped_cons_of_special hspecial, List.cons_append, List.cons_append, withoutCommentsFrom,
        ih]
      rfl
    · rw [escaped_cons_of_plain hspecial, List.cons_append, withoutCommentsFrom]
      · rw [if_neg (fun h => hspecial (.inl h)), ih]
        rfl
      · rintro d rest' rfl -
        exact hspecial (.inr rfl)

/-- A string is left with its quotes alone. The induction is on its text. -/
theorem bareCodeFrom_escaped (s rest : Text) :
    bareCodeFrom .string (escaped s ++ '"' :: rest) =
      ('"' :: (bareCodeFrom .code rest).1, (bareCodeFrom .code rest).2) := by
  induction s with
  | nil => simp [bareCodeFrom]
  | cons c s ih =>
    by_cases hspecial : c = '"' ∨ c = '\\'
    · rw [escaped_cons_of_special hspecial, List.cons_append, List.cons_append, bareCodeFrom, ih]
    · rw [escaped_cons_of_plain hspecial, List.cons_append, bareCodeFrom, ih]
      · rintro d rest' rfl -
        exact hspecial (.inr rfl)
      · rintro rfl
        exact hspecial (.inl rfl)

theorem withoutCommentsFrom_plain {s : Text} (h : IsPlain s) (rest : Text) :
    withoutCommentsFrom .code (s ++ rest) =
      (s ++ (withoutCommentsFrom .code rest).1, (withoutCommentsFrom .code rest).2) := by
  induction s with
  | nil => rfl
  | cons c s ih =>
    rw [IsPlain, avoids_cons] at h
    have hc : c ≠ '"' ∧ c ≠ '/' := by simpa using h.1
    rw [List.cons_append, withoutCommentsFrom, if_neg hc.1, ih h.2]
    · rfl
    · rintro rest' rfl -
      exact hc.2 rfl
    · rintro rest' rfl -
      exact hc.2 rfl

theorem bareCodeFrom_plain {s : Text} (h : IsPlain s) (rest : Text) :
    bareCodeFrom .code (s ++ rest) =
      (s ++ (bareCodeFrom .code rest).1, (bareCodeFrom .code rest).2) := by
  induction s with
  | nil => rfl
  | cons c s ih =>
    rw [IsPlain, avoids_cons] at h
    have hc : c ≠ '"' ∧ c ≠ '/' := by simpa using h.1
    rw [List.cons_append, bareCodeFrom, if_neg hc.1, ih h.2]
    · rfl
    · rintro rest' rfl -
      exact hc.2 rfl
    · rintro rest' rfl -
      exact hc.2 rfl

/-! ## Whole lines -/

/-- In a line without strings and comments there is nothing to take away. -/
theorem withoutComments_plain {line : Text} (h : IsPlain line) :
    withoutComments line false = (line, false) := by
  have hline := withoutCommentsFrom_plain h []
  rw [List.append_nil] at hline
  rw [withoutComments, Zone.start, if_neg (by simp), hline]
  simp

theorem bareCode_plain {line : Text} (h : IsPlain line) : bareCode line false = (line, false) := by
  have hline := bareCodeFrom_plain h []
  rw [List.append_nil] at hline
  rw [bareCode, Zone.start, if_neg (by simp), hline]
  simp

/-- A line with one string, which stays. -/
theorem withoutComments_stringLiteral {front back : Text} (hfront : IsPlain front)
    (hback : IsPlain back) (s : Text) :
    withoutComments (front ++ stringLiteral s ++ back) false =
      (front ++ stringLiteral s ++ back, false) := by
  have hend : withoutCommentsFrom .code back = (back, false) := withoutComments_plain hback
  have hopen : withoutCommentsFrom .code (stringLiteral s ++ back) =
      (stringLiteral s ++ back, false) := by
    rw [stringLiteral, List.cons_append, List.append_assoc, List.singleton_append,
      withoutCommentsFrom, if_pos rfl, withoutCommentsFrom_escaped, hend]
    · rintro rest h -
      cases h
    · rintro rest h -
      cases h
  rw [withoutComments, Zone.start, if_neg (by simp), List.append_assoc,
    withoutCommentsFrom_plain hfront, hopen]

/-- A line with one string, which loses what it holds. -/
theorem bareCode_stringLiteral {front back : Text} (hfront : IsPlain front)
    (hback : IsPlain back) (s : Text) :
    bareCode (front ++ stringLiteral s ++ back) false =
      (front ++ stringLiteral [] ++ back, false) := by
  have hend : bareCodeFrom .code back = (back, false) := bareCode_plain hback
  have hopen : bareCodeFrom .code (stringLiteral s ++ back) =
      (stringLiteral [] ++ back, false) := by
    rw [stringLiteral, List.cons_append, List.append_assoc, List.singleton_append, bareCodeFrom,
      if_pos rfl, bareCodeFrom_escaped, hend]
    · rfl
    · rintro rest h -
      cases h
    · rintro rest h -
      cases h
  rw [bareCode, Zone.start, if_neg (by simp), List.append_assoc, bareCodeFrom_plain hfront, hopen,
    List.append_assoc]

end RouteAtlas.Controllers
