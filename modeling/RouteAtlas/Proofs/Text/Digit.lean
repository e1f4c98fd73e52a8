import RouteAtlas.Proofs.Text.CharClass

/-!
# Decimal digits are digits

Signs that stand for digits, such as the raised two, are digits without being decimal ones. The
other way round there is nothing to tell apart: what has a value as a decimal digit is a digit
(`isDigit_of_decimalDigit?`). Both are looked up in tables, the value by going through one from its
beginning, the membership by halving the other one. Halving misses nothing, since the ranges of a
table stand in order (`CodeRanges.search_of_between`).
-/

namespace RouteAtlas

namespace CodeRanges

/-- The ranges stand in order, and none of them is empty. -/
def areInOrder (bounds : List (Nat × Nat)) : Bool :=
  decide (bounds.Pairwise fun a b => a.2 < b.1) && bounds.all fun range => range.1 ≤ range.2

/-- **Halving finds what is in one of the ranges.** The range stays between the two places that are
still looked at. -/
theorem search_of_between {bounds : Array (Nat × Nat)} {code low high place : Nat}
    (horder : areInOrder bounds.toList = true) (hplace : place < bounds.size)
    (hfirst : bounds[place].1 ≤ code) (hlast : code ≤ bounds[place].2) (hlow : low ≤ place)
    (hhigh : place < high) (hsize : high ≤ bounds.size) : search bounds code low high = true := by
  rw [areInOrder, Bool.and_eq_true, decide_eq_true_eq, List.all_eq_true] at horder
  obtain ⟨hpairwise, hvalid⟩ := horder
  have hbefore (i j : Nat) (hi : i < bounds.size) (hj : j < bounds.size) (hij : i < j) :
      bounds[i].2 < bounds[j].1 := by
    have hpair := List.pairwise_iff_getElem.mp hpairwise i j hi hj hij
    simpa only [Array.getElem_toList] using hpair
  fun_induction search bounds code low high with
  | case1 low high hlt middle hmiddle =>
    rw [Array.getElem?_eq_none_iff] at hmiddle
    omega
  | case2 low high hlt middle first last hmiddle hbelow ih =>
    obtain ⟨hmiddle, heq⟩ := Array.getElem?_eq_some_iff.mp hmiddle
    -- From the middle on, all codes are greater.
    refine ih hlow (Nat.lt_of_not_le fun hnot => ?_) (by omega)
    rcases Nat.lt_or_eq_of_le hnot with hlater | hsame
    · have hapart := hbefore middle place hmiddle hplace hlater
      have hrange := hvalid _ (Array.getElem_mem_toList hmiddle)
      rw [heq] at hapart hrange
      simp only [decide_eq_true_eq] at hrange
      omega
    · subst hsame
      rw [heq] at hfirst
      omega
  | case3 low high hlt middle first last hmiddle hbelow habove ih =>
    obtain ⟨hmiddle, heq⟩ := Array.getElem?_eq_some_iff.mp hmiddle
    -- Up to the middle, all codes are smaller.
    refine ih (Nat.lt_of_not_le fun hnot => ?_) hhigh hsize
    rcases Nat.lt_or_eq_of_le hnot with hearlier | hsame
    · have hapart := hbefore place middle hplace hmiddle hearlier
      have hrange := hvalid _ (Array.getElem_mem_toList hmiddle)
      rw [heq] at hapart hrange
      simp only [decide_eq_true_eq] at hrange
      omega
    · subst hsame
      rw [heq] at hlast
      omega
  | case4 => rfl
  | case5 low high hlt => omega

theorem contains_of_mem {ranges : CodeRanges} {c : Char} {range : Nat × Nat}
    (horder : areInOrder ranges.bounds.toList = true) (hrange : range ∈ ranges.bounds)
    (hfirst : range.1 ≤ c.toNat) (hlast : c.toNat ≤ range.2) : ranges.contains c = true := by
  obtain ⟨place, hplace, rfl⟩ := Array.getElem_of_mem hrange
  exact search_of_between horder hplace hfirst hlast (Nat.zero_le _) hplace (Nat.le_refl _)

end CodeRanges

namespace Text

/-- What it takes to go through the tables for: the ranges of digits stand in order, each range of
decimal digits lies in one of them, and so does the raised two. -/
theorem digit_tables_agree :
    CodeRanges.areInOrder digitSymbol.bounds.toList = true ∧
    (decimalDigit.bounds.toList.all fun range =>
      digitSymbol.bounds.toList.any fun other => other.1 ≤ range.1 && range.2 ≤ other.2) = true ∧
    (digitSymbol.bounds.toList.any fun range => range.1 ≤ 178 && 178 ≤ range.2) = true := by
  unfold decimalDigit digitSymbol CodeRanges.ofGaps
  rw [numbersIn_ofList, numbersIn_ofList]
  decide +kernel

/-- The raised two is a digit … -/
theorem isDigit_raisedTwo : isDigit '²' = true := by
  obtain ⟨horder, -, hranges⟩ := digit_tables_agree
  obtain ⟨range, hrange, hcode⟩ := List.any_eq_true.mp hranges
  simp only [Bool.and_eq_true, decide_eq_true_eq] at hcode
  rw [isDigit, if_neg (by decide)]
  exact CodeRanges.contains_of_mem horder (Array.mem_toList_iff.mp hrange) hcode.1 hcode.2

/-- … but has no value, unlike the Arabic one. -/
theorem decimalDigit?_twos : decimalDigit? '²' = none ∧ decimalDigit? '٢' = some 2 := by
  unfold decimalDigit? decimalDigit CodeRanges.ofGaps
  rw [numbersIn_ofList]
  decide +kernel

/-- What has a value as a decimal digit is a digit. -/
theorem isDigit_of_decimalDigit? {c : Char} (h : (decimalDigit? c).isSome = true) :
    isDigit c = true := by
  obtain ⟨horder, hcovered, -⟩ := digit_tables_agree
  unfold decimalDigit? at h
  unfold isDigit
  split at h
  next hascii =>
    rw [if_pos hascii]
    split at h
    next hdigit => exact hdigit
    next => cases h
  next hbeyond =>
    rw [if_neg hbeyond]
    rw [Option.isSome_map, Option.isSome_iff_exists] at h
    obtain ⟨range, hfound⟩ := h
    have hrange := Array.mem_of_find?_eq_some hfound
    have hcode := Array.find?_some hfound
    simp only [Bool.and_eq_true, decide_eq_true_eq] at hcode
    obtain ⟨other, hother, hcovers⟩ := List.any_eq_true.mp
      (List.all_eq_true.mp hcovered range (Array.mem_toList_iff.mpr hrange))
    simp only [Bool.and_eq_true, decide_eq_true_eq] at hcovers
    exact CodeRanges.contains_of_mem horder (Array.mem_toList_iff.mp hother)
      (by omega) (by omega)

/-- Digits of ASCII are told without the tables. -/
example : decimalDigit? '7' = some 7 ∧ isDigit '7' = true := by decide +kernel

end Text

end RouteAtlas
