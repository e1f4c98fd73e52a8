import RouteAtlas.Text.CodeText

/-!
# Which code points are text

Code points are text if none of them is half of a surrogate pair (`isSome_toText?`), and then they
are the code points of that text.

The halves stand by themselves here. Two of them next to each other are not put together to one
character, as they would be in UTF-16: strings are given in code points and written in UTF-8, which
has no place for either of them.
-/

namespace RouteAtlas.CodeText

theorem isSome_toText? (s : CodeText) :
    s.toText?.isSome = s.all fun point => point.char?.isSome := by
  induction s with
  | nil => rfl
  | cons point s ih =>
    cases point with
    | char c => rw [toText?, Option.isSome_map, ih]; rfl
    | lone half => rfl

/-- The code points of a text are characters. -/
theorem all_char?_ofText (s : Text) :
    ((ofText s).all fun point => point.char?.isSome) = true := by
  rw [← isSome_toText?, toText?_ofText]
  rfl

@[simp] theorem isSome_toText?_ofText (s : Text) : (ofText s).toText?.isSome = true := by
  rw [toText?_ofText]
  rfl

@[simp] theorem isSome_toText?_ofString (s : String) : (ofString s).toText?.isSome = true :=
  isSome_toText?_ofText s.toList

/-- Code points are text if both of their parts are. -/
theorem isSome_toText?_append (s t : CodeText) :
    (toText? (s ++ t)).isSome = (s.toText?.isSome && t.toText?.isSome) := by
  rw [isSome_toText?, isSome_toText?, isSome_toText?, List.all_append]

@[simp] theorem isSome_toText?_ofText_append (lead : Text) (s : CodeText) :
    (ofText lead ++ s).toText?.isSome = s.toText?.isSome := by
  rw [isSome_toText?_append, isSome_toText?_ofText, Bool.true_and]

/-- What is text are the code points of some text. -/
theorem exists_eq_ofText_of_toText? {s : CodeText} (h : s.toText?.isSome = true) :
    ∃ t, s = ofText t := by
  induction s with
  | nil => exact ⟨[], rfl⟩
  | cons point s ih =>
    cases point with
    | char c =>
      rw [toText?, Option.isSome_map] at h
      obtain ⟨t, rfl⟩ := ih h
      exact ⟨c :: t, rfl⟩
    | lone half => exact absurd h (by simp [toText?])

/-- Texts are equal if their code points are. -/
theorem ofText_inj {s t : Text} : ofText s = ofText t ↔ s = t :=
  List.map_inj_right fun _ _ h => CodePoint.char.inj h

/-- A character stands in a text if it stands among its code points. -/
theorem char_mem_ofText_iff {c : Char} {s : Text} : CodePoint.char c ∈ ofText s ↔ c ∈ s := by
  simp [ofText]

/-- Code points are text if they are the code points of one. -/
theorem toText?_eq_some_iff {s : CodeText} {t : Text} : s.toText? = some t ↔ s = ofText t := by
  constructor
  · intro h
    obtain ⟨t', rfl⟩ := exists_eq_ofText_of_toText? (s := s) (by rw [h]; rfl)
    rw [toText?_ofText] at h
    rw [Option.some.inj h]
  · intro h
    rw [h]
    exact toText?_ofText t

end RouteAtlas.CodeText
