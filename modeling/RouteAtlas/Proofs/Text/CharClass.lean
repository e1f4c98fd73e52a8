import RouteAtlas.Text.Blank
import RouteAtlas.Text.CharClass

/-!
# Disjoint classes of characters

No blank is a word character, and every character that ends a line is a blank. What the search by
halving finds in a table lies in one of its ranges (`CodeRanges.not_contains`), and no range of the
table of letters and numbers holds a blank, which is a matter of going through the table.
-/

namespace RouteAtlas

/-! ## Tables -/

/-- A literal is read character by character. -/
theorem numbersIn_ofList (chars : List Char) :
    numbersIn (String.ofList chars) = numbersFrom none false chars := by
  rw [numbersIn, String.toList_ofList]

namespace CodeRanges

/-- What is found lies in one of the ranges. -/
theorem exists_of_search {bounds : Array (Nat × Nat)} {code low high : Nat}
    (h : search bounds code low high = true) :
    ∃ range ∈ bounds, range.1 ≤ code ∧ code ≤ range.2 := by
  fun_induction search bounds code low high with
  | case1 => cases h
  | case2 low high hlt middle first last hmiddle hbelow ih => exact ih h
  | case3 low high hlt middle first last hmiddle hbelow habove ih => exact ih h
  | case4 low high hlt middle first last hmiddle hbelow habove =>
    exact ⟨(first, last), Array.mem_of_getElem? hmiddle, by simpa using hbelow,
      by simpa using habove⟩
  | case5 => cases h

/-- Nothing is found that lies apart from all ranges. -/
theorem not_contains {ranges : CodeRanges} {c : Char}
    (h : ∀ range ∈ ranges.bounds, range.2 < c.toNat ∨ c.toNat < range.1) :
    ranges.contains c = false := by
  cases hcontains : ranges.contains c with
  | false => rfl
  | true =>
    obtain ⟨range, hrange, hfirst, hlast⟩ := exists_of_search hcontains
    have hapart := h range hrange
    omega

end CodeRanges

/-! ## Blanks -/

namespace Text

variable {c : Char}

/-- The blanks beyond ASCII, as ranges of codes. -/
def blankRanges : List (Nat × Nat) :=
  [(0x85, 0x85), (0xA0, 0xA0), (0x1680, 0x1680), (0x2000, 0x200A), (0x2028, 0x2029),
   (0x202F, 0x202F), (0x205F, 0x205F), (0x3000, 0x3000)]

/-- No range of letters and numbers meets one of blanks. -/
theorem alphanumeric_apart :
    (alphanumeric.bounds.toList.all fun range =>
      blankRanges.all fun blanks => range.2 < blanks.1 || blanks.2 < range.1) = true := by
  unfold alphanumeric CodeRanges.ofGaps
  rw [numbersIn_ofList]
  decide +kernel

/-- A blank is no letter or number. -/
theorem isAlphanumeric_of_isBlank (h : isBlank c = true) : isAlphanumeric c = false := by
  simp only [isBlank, Bool.or_eq_true, Bool.and_eq_true, decide_eq_true_eq, beq_iff_eq] at h
  unfold isAlphanumeric
  split
  next hascii =>
    simp only [isAsciiLetter, isAsciiDigit, Bool.or_eq_false_iff, Bool.and_eq_false_iff,
      decide_eq_false_iff_not, Char.le_def, UInt32.le_iff_toNat_le]
    have hcode : c.val.toNat = c.toNat := rfl
    rw [hcode]
    refine ⟨⟨?_, ?_⟩, ?_⟩ <;> simp <;> omega
  next hbeyond =>
    refine CodeRanges.not_contains fun range hrange => ?_
    have hapart := List.all_eq_true.mp alphanumeric_apart range (Array.mem_toList_iff.mpr hrange)
    simp only [blankRanges, List.all_cons, List.all_nil, Bool.and_true, Bool.and_eq_true,
      Bool.or_eq_true, decide_eq_true_eq] at hapart
    omega

/-- A blank is no word character. -/
theorem isWordChar_of_isBlank (h : isBlank c = true) : isWordChar c = false := by
  have hline : c ≠ '_' := by
    rintro rfl
    cases h
  rw [isWordChar, isAlphanumeric_of_isBlank h, Bool.or_false]
  exact beq_eq_false_iff_ne.mpr hline

/-- A word character is no blank. -/
theorem isBlank_of_isWordChar (h : isWordChar c = true) : isBlank c = false := by
  cases hblank : isBlank c with
  | false => rfl
  | true =>
    rw [isWordChar_of_isBlank hblank] at h
    cases h

/-- What ends a line is a blank. -/
theorem isBlank_of_endsLine (h : endsLine c = true) : isBlank c = true := by
  simp only [endsLine, isBlank, Bool.or_eq_true, Bool.and_eq_true, decide_eq_true_eq,
    beq_iff_eq] at h ⊢
  omega

theorem endsLine_of_not_isBlank (h : isBlank c = false) : endsLine c = false := by
  cases hends : endsLine c with
  | false => rfl
  | true =>
    rw [isBlank_of_endsLine hends] at h
    cases h

end Text

end RouteAtlas
