import Mathlib.Data.List.TakeWhile
import RouteAtlas.Controllers.Declaration
import RouteAtlas.Proofs.Controllers.Line
import RouteAtlas.Proofs.Text.CharClass
import RouteAtlas.Proofs.Text.Lines

/-!
# Words

The names of classes, methods and attributes are words: letters, digits and low lines. Nothing that
the scan of a line looks for is in a word, so a word is passed over as a whole, and where it is read
it ends where it was meant to end. A character such as an accent that stands for itself does not
belong to a word.
-/

namespace RouteAtlas

namespace Text

/-- A text that does not start with a blank has no leading blanks. -/
theorem trimStart_cons {c : Char} (h : isBlank c = false) (rest : Text) :
    trimStart (c :: rest) = c :: rest := by
  rw [trimStart, List.dropWhile_cons, if_neg (by simp [h])]

/-- A text that does not start with a blank is not blank. -/
theorem trim_cons_ne_nil {c : Char} (h : isBlank c = false) (rest : Text) :
    trim (c :: rest) ≠ [] := by
  intro hnil
  rw [trim, trimWhile, dropEndWhile, List.dropWhile_cons, if_neg (by simp [h]),
    List.reverse_eq_nil_iff, List.dropWhile_eq_nil_iff] at hnil
  have hblank := hnil c (by simp)
  rw [h] at hblank
  cases hblank

end Text

namespace Controllers

/-- A name that consists of word characters. -/
structure Word where
  text : Text
  text_ne : text ≠ []
  isWordChar : ∀ c ∈ text, Text.isWordChar c = true

/-- A text does not go on with a word. -/
def EndsWord (rest : Text) : Prop := ∀ c ∈ rest.head?, Text.isWordChar c = false

@[simp] theorem endsWord_nil : EndsWord [] := by
  intro c hc
  cases hc

theorem endsWord_cons {c : Char} (h : Text.isWordChar c = false) (rest : Text) :
    EndsWord (c :: rest) := by
  intro d hd
  obtain rfl : c = d := by simpa using hd
  exact h

/-- Only the first character of what follows decides. -/
theorem EndsWord.of_append {s rest : Text} (h : EndsWord (s ++ rest)) : EndsWord s := by
  cases s with
  | nil => exact endsWord_nil
  | cons c s => exact h

/-- Letters that a text begins with lie in its front, unless a word goes on behind that front. -/
theorem exists_back_of_append {letters front rest after : Text}
    (hletters : ∀ c ∈ letters, Text.isWordChar c = true) (hrest : EndsWord rest)
    (h : letters ++ after = front ++ rest) :
    ∃ back, front = letters ++ back ∧ after = back ++ rest := by
  rcases List.append_eq_append_iff.mp h with ⟨back, hfront, hafter⟩ | ⟨more, hmore, hbehind⟩
  · exact ⟨back, hfront, hafter⟩
  · cases more with
    | nil => exact ⟨[], by rw [hmore]; simp, hbehind.symm⟩
    | cons c more =>
      have hletter := hletters c (by rw [hmore]; simp)
      rw [hrest c (by rw [hbehind]; rfl)] at hletter
      cases hletter

namespace Word

variable (w : Word)

theorem exists_cons : ∃ c rest, w.text = c :: rest ∧ Text.isWordChar c = true := by
  obtain ⟨c, rest, hcons⟩ := List.exists_cons_of_ne_nil w.text_ne
  exact ⟨c, rest, hcons, w.isWordChar c (by simp [hcons])⟩

/-- What is no word character is not in a word. -/
theorem avoids {marks : List Char} (h : marks.any Text.isWordChar = false) :
    Avoids w.text marks :=
  avoids_of_forall w.isWordChar h

theorem isPlain : IsPlain w.text := w.avoids (by decide)

theorem isLine : Text.IsLine w.text := by
  intro c hc
  exact Text.endsLine_of_not_isBlank (Text.isBlank_of_isWordChar (w.isWordChar c hc))

/-- There are no blanks before a word. -/
theorem trimStart_append (rest : Text) : Text.trimStart (w.text ++ rest) = w.text ++ rest := by
  obtain ⟨c, tail, hcons, hc⟩ := w.exists_cons
  rw [hcons]
  exact Text.trimStart_cons (Text.isBlank_of_isWordChar hc) (tail ++ rest)

theorem takeWhile_append {rest : Text} (h : EndsWord rest) :
    (w.text ++ rest).takeWhile Text.isWordChar = w.text := by
  rw [List.takeWhile_append_of_pos w.isWordChar]
  cases rest with
  | nil => simp
  | cons c rest => simp [h c (by simp)]

theorem dropWhile_append {rest : Text} (h : EndsWord rest) :
    (w.text ++ rest).dropWhile Text.isWordChar = rest := by
  rw [List.dropWhile_append_of_pos w.isWordChar]
  cases rest with
  | nil => rfl
  | cons c rest => simp [h c (by simp)]

/-- A word is read up to its end. -/
theorem splitWord_append {rest : Text} (h : EndsWord rest) :
    splitWord (w.text ++ rest) = (w.text, rest) := by
  rw [splitWord, w.takeWhile_append h, w.dropWhile_append h]

end Word

/-! ## Accents -/

/-- An accent that is a character of its own is no word character. -/
theorem isWordChar_accent : Text.isWordChar '\u0301' = false := by
  have hapart : (Text.alphanumeric.bounds.toList.all fun range =>
      range.2 < 0x301 || 0x301 < range.1) = true := by
    unfold Text.alphanumeric CodeRanges.ofGaps
    rw [numbersIn_ofList]
    decide +kernel
  have hnumber : Text.alphanumeric.contains '\u0301' = false :=
    CodeRanges.not_contains fun range hrange => by
      simpa using List.all_eq_true.mp hapart range (Array.mem_toList_iff.mpr hrange)
  rw [Text.isWordChar, Text.isAlphanumeric, if_neg (by decide), hnumber]
  rfl

end Controllers

end RouteAtlas
