import RouteAtlas.Proofs.Text.Case
import RouteAtlas.Proofs.Text.CharClass

/-!
# What is in lower case stays as it is

To put a text in lower case a second time changes nothing (`lower_lower`).

The small letters of a run of the table are the codes of its images (`CaseRun.image`). None of them
is in a run of capitals itself, which is a matter of going through the runs (`capitalRuns_apart`).
Mostly it is enough to compare where images and capitals begin and end, for a whole part of the
table at once (`CaseRun.avoidsAll`); only where capitals and small letters alternate are the images
looked at one by one. The capitals of ASCII count as one more run, the first one.
-/

namespace RouteAtlas.Text

/-! ## Runs -/

namespace CaseRun

/-- The run maps a code. -/
def holds (run : CaseRun) (code : Nat) : Bool :=
  run.first ≤ code && (code - run.first) % run.stride == 0
    && (code - run.first) / run.stride < run.count

/-- What the code at a place of the run is mapped to. -/
def image (run : CaseRun) (place : Nat) : Nat :=
  ((run.first + run.stride * place : Nat) + run.shift).toNat

/-- The last code of the run. -/
def last (run : CaseRun) : Nat := run.first + run.stride * (run.count - 1)

/-- No code that one run maps to is mapped by another one. -/
def avoids (run other : CaseRun) : Bool :=
  other.last.blt (run.image 0) || (run.image (run.count - 1)).blt other.first ||
    (List.range run.count).all fun place => !other.holds (run.image place)

variable {run other : CaseRun} {code place : Nat}

/-- A code that a run maps has a place in it. -/
theorem exists_place_of_holds (h : run.holds code = true) :
    ∃ place < run.count, code = run.first + run.stride * place := by
  simp only [holds, Bool.and_eq_true, decide_eq_true_eq, beq_iff_eq] at h
  obtain ⟨⟨hfirst, hstride⟩, hcount⟩ := h
  refine ⟨_, hcount, ?_⟩
  have hplace := Nat.div_add_mod (code - run.first) run.stride
  omega

theorem first_le_of_holds (h : run.holds code = true) : run.first ≤ code := by
  obtain ⟨place, -, rfl⟩ := exists_place_of_holds h
  omega

theorem le_last_of_holds (h : run.holds code = true) : code ≤ run.last := by
  obtain ⟨place, hplace, rfl⟩ := exists_place_of_holds h
  have hbefore : run.stride * place ≤ run.stride * (run.count - 1) :=
    Nat.mul_le_mul_left _ (by omega)
  rw [last]
  omega

theorem image_mono (run : CaseRun) {place place' : Nat} (h : place ≤ place') :
    run.image place ≤ run.image place' := by
  have hbefore : run.stride * place ≤ run.stride * place' := Nat.mul_le_mul_left _ h
  rw [image, image]
  omega

/-- Runs that avoid another one have no image in it. -/
theorem not_holds_of_avoids (h : run.avoids other = true) (hplace : place < run.count) :
    other.holds (run.image place) = false := by
  simp only [avoids, Bool.or_eq_true, Nat.blt_eq] at h
  rcases h with (hbehind | hbefore) | hapart
  · rw [Bool.eq_false_iff]
    intro hholds
    have hlast := le_last_of_holds hholds
    have hfirst := run.image_mono (Nat.zero_le place)
    omega
  · rw [Bool.eq_false_iff]
    intro hholds
    have hfirst := first_le_of_holds hholds
    have hlast := run.image_mono (show place ≤ run.count - 1 by omega)
    omega
  · have hnot := List.all_eq_true.mp hapart place (List.mem_range.mpr hplace)
    simpa using hnot

/-- The least code that one of the runs starts at; where there are none, the first beyond all
codes. -/
def lowest (runs : List CaseRun) : Nat := runs.foldr (fun run code => min run.first code) 0x110000

/-- The greatest code that one of the runs ends at. -/
def highest (runs : List CaseRun) : Nat := runs.foldr (fun run code => max run.last code) 0

theorem lowest_le {runs : List CaseRun} (h : run ∈ runs) : lowest runs ≤ run.first := by
  induction runs with
  | nil => cases h
  | cons r runs ih =>
    rw [lowest, List.foldr_cons]
    rcases List.mem_cons.mp h with rfl | hrest
    · exact Nat.min_le_left _ _
    · exact Nat.le_trans (Nat.min_le_right _ _) (ih hrest)

theorem le_highest {runs : List CaseRun} (h : run ∈ runs) : run.last ≤ highest runs := by
  induction runs with
  | nil => cases h
  | cons r runs ih =>
    rw [highest, List.foldr_cons]
    rcases List.mem_cons.mp h with rfl | hrest
    · exact Nat.le_max_left _ _
    · exact Nat.le_trans (ih hrest) (Nat.le_max_right _ _)

/-- The run avoids all of the others. They are cut in halves for so many times as long as the run
does not avoid them by where they begin and end. -/
def avoidsAll (run : CaseRun) : Nat → List CaseRun → Bool
  | 0, others => others.all run.avoids
  | cuts + 1, others =>
    (highest others).blt (run.image 0) || (run.image (run.count - 1)).blt (lowest others) ||
      avoidsAll run cuts (others.take (others.length / 2)) &&
        avoidsAll run cuts (others.drop (others.length / 2))

theorem avoids_of_avoidsAll {cuts : Nat} {others : List CaseRun}
    (h : run.avoidsAll cuts others = true) (hother : other ∈ others) : run.avoids other = true := by
  induction cuts generalizing others with
  | zero => exact List.all_eq_true.mp h other hother
  | succ cuts ih =>
    rw [avoidsAll, Bool.or_eq_true, Bool.or_eq_true, Bool.and_eq_true, Nat.blt_eq, Nat.blt_eq] at h
    have hfirst := lowest_le hother
    have hlast := le_highest hother
    simp only [avoids, Bool.or_eq_true, Nat.blt_eq]
    rcases h with (hbehind | hbefore) | ⟨hleft, hright⟩
    · exact Or.inl (Or.inl (by omega))
    · exact Or.inl (Or.inr (by omega))
    · rw [← List.take_append_drop (others.length / 2) others, List.mem_append] at hother
      simpa [avoids] using hother.elim (ih hleft) (ih hright)

end CaseRun

/-- What is found is one of the runs. -/
theorem mem_of_lastRunFrom {runs : Array CaseRun} {code low high : Nat} {run : CaseRun}
    (h : lastRunFrom runs code low high = some run) : run ∈ runs := by
  fun_induction lastRunFrom runs code low high with
  | case1 => cases h
  | case2 low high hlt middle found hmiddle hfirst ih => exact ih h
  | case3 low high hlt middle found hmiddle hfirst ih => exact ih h
  | case4 low high hlt => exact Array.mem_of_getElem? h

/-- A character stays as it is, or a run maps it. -/
theorem mapByRuns_cases (runs : Array CaseRun) (c : Char) :
    mapByRuns runs c = c ∨ ∃ run ∈ runs, run.holds c.toNat = true ∧
      mapByRuns runs c = Char.ofNat ((c.toNat : Int) + run.shift).toNat := by
  unfold mapByRuns
  split
  next => exact Or.inl rfl
  next run hfound =>
    split
    next hholds => exact Or.inr ⟨run, mem_of_lastRunFrom hfound, hholds, rfl⟩
    next => exact Or.inl rfl

/-! ## Small letters -/

/-- The capitals of ASCII as a run. -/
def asciiRun : CaseRun := ⟨65, 26, 1, 32⟩

/-- All runs of capitals. -/
def capitalRuns : List CaseRun := asciiRun :: lowerRuns.toList

/-- A text keeps the character when it is put in lower case, wherever it stands. -/
def IsSmall (c : Char) : Prop := lowerChar c = c ∧ c ≠ 'Σ' ∧ c ≠ 'İ'

/-- The capitals that have their own rules. -/
def ruledCapitals : List Char := ['Σ', 'İ']

/-- The characters that these rules give, and the one with the code 0. -/
def ruledSmall : List Char := ['σ', 'ς', 'i', '\u0307', '\u0000']

/-- What it takes to go through the runs for: every run avoids every other one, and itself; the
capitals with their own rules are in runs, and what these rules give is in none. -/
theorem capitalRuns_apart :
    (capitalRuns.all fun run => run.avoidsAll 5 capitalRuns) = true ∧
    (ruledCapitals.all fun c => capitalRuns.any fun run => run.holds c.toNat) = true ∧
    (ruledSmall.all fun c => capitalRuns.all fun run => !run.holds c.toNat) = true := by
  unfold capitalRuns lowerRuns caseRuns
  rw [numbersIn_ofList]
  decide +kernel

variable {c : Char}

/-- A character is its own small letter, or a run maps it. -/
theorem lowerChar_cases (c : Char) :
    lowerChar c = c ∨ ∃ run ∈ capitalRuns, run.holds c.toNat = true ∧
      lowerChar c = Char.ofNat ((c.toNat : Int) + run.shift).toNat := by
  by_cases hascii : c.toNat < 128
  · have hrun : lowerChar c = c ∨ asciiRun.holds c.toNat = true ∧
        lowerChar c = Char.ofNat ((c.toNat : Int) + asciiRun.shift).toNat :=
      forall_ascii
        (p := fun c => lowerChar c = c ∨ asciiRun.holds c.toNat = true ∧
          lowerChar c = Char.ofNat ((c.toNat : Int) + asciiRun.shift).toNat)
        (by decide) hascii
    exact hrun.imp_right fun h => ⟨asciiRun, List.mem_cons_self, h⟩
  · rw [lowerChar, if_neg hascii]
    rcases mapByRuns_cases lowerRuns c with hsame | ⟨run, hrun, hmaps⟩
    · exact Or.inl hsame
    · exact Or.inr ⟨run, List.mem_cons_of_mem _ (Array.mem_toList_iff.mpr hrun), hmaps⟩

/-- What is in no run is small. -/
theorem isSmall_of_not_holds (h : ∀ run ∈ capitalRuns, run.holds c.toNat = false) : IsSmall c := by
  obtain ⟨-, hruled, -⟩ := capitalRuns_apart
  have hcapital : c ∉ ruledCapitals := by
    intro hmem
    obtain ⟨run, hrun, hholds⟩ := List.any_eq_true.mp (List.all_eq_true.mp hruled c hmem)
    exact Bool.false_ne_true ((h run hrun).symm.trans hholds)
  rw [ruledCapitals, List.mem_cons, List.mem_singleton, not_or] at hcapital
  refine ⟨?_, hcapital⟩
  rcases lowerChar_cases c with hsame | ⟨run, hrun, hholds, -⟩
  · exact hsame
  · exact absurd ((h run hrun).symm.trans hholds) Bool.false_ne_true

theorem isSmall_of_mem (h : c ∈ ruledSmall) : IsSmall c := by
  refine isSmall_of_not_holds fun run hrun => ?_
  obtain ⟨-, -, hruled⟩ := capitalRuns_apart
  have hnot := List.all_eq_true.mp (List.all_eq_true.mp hruled c h) run hrun
  simpa using hnot

/-- The small letter of a character without its own rule is small. -/
theorem isSmall_lowerChar (hsigma : c ≠ 'Σ') (hdotted : c ≠ 'İ') : IsSmall (lowerChar c) := by
  rcases lowerChar_cases c with hsame | ⟨run, hrun, hholds, hmaps⟩
  · rw [hsame]
    exact ⟨hsame, hsigma, hdotted⟩
  obtain ⟨place, hplace, hcode⟩ := CaseRun.exists_place_of_holds hholds
  have himage : lowerChar c = Char.ofNat (run.image place) := by
    rw [hmaps, hcode]
    rfl
  rw [himage]
  by_cases hvalid : (run.image place).isValidChar
  · -- The image is a code, and no run of capitals has it.
    have hsame : (Char.ofNat (run.image place)).toNat = run.image place := by
      rw [Char.ofNat, dif_pos hvalid]
      rfl
    refine isSmall_of_not_holds fun other hother => ?_
    rw [hsame]
    have havoids := List.all_eq_true.mp capitalRuns_apart.1 run hrun
    exact CaseRun.not_holds_of_avoids (CaseRun.avoids_of_avoidsAll havoids hother) hplace
  · -- a number that is no code is read as the code 0
    have hzero : Char.ofNat (run.image place) = '\u0000' := by
      rw [Char.ofNat, dif_neg hvalid]
      rfl
    rw [hzero]
    exact isSmall_of_mem (by decide)

/-! ## Texts -/

/-- A text of small letters is in lower case. -/
theorem lowerFrom_of_isSmall {s : Text} (before : Text) (h : ∀ c ∈ s, IsSmall c) :
    lowerFrom before s = s := by
  induction s generalizing before with
  | nil => rfl
  | cons c s ih =>
    obtain ⟨⟨hc, hsigma, hdotted⟩, hs⟩ := List.forall_mem_cons.mp h
    rw [lowerFrom, if_neg hsigma, if_neg hdotted, hc, ih _ hs]
    rfl

/-- What is in lower case are small letters. -/
theorem isSmall_of_mem_lowerFrom {before s : Text} (h : c ∈ lowerFrom before s) : IsSmall c := by
  induction s generalizing before with
  | nil => cases h
  | cons d s ih =>
    rw [lowerFrom, List.mem_append] at h
    rcases h with hfirst | hrest
    · -- The first character may have a rule of its own.
      by_cases hsigma : d = 'Σ'
      · rw [if_pos hsigma] at hfirst
        refine isSmall_of_mem ?_
        split at hfirst
        next =>
          rw [List.mem_singleton.mp hfirst]
          decide
        next =>
          rw [List.mem_singleton.mp hfirst]
          decide
      · by_cases hdotted : d = 'İ'
        · rw [if_neg hsigma, if_pos hdotted, List.mem_cons, List.mem_singleton] at hfirst
          refine isSmall_of_mem ?_
          rcases hfirst with rfl | rfl
          · decide
          · decide
        · rw [if_neg hsigma, if_neg hdotted, List.mem_singleton] at hfirst
          rw [hfirst]
          exact isSmall_lowerChar hsigma hdotted
    · exact ih hrest

/-- **To put a text in lower case twice is to do it once.** -/
theorem lower_lower (s : Text) : lower (lower s) = lower s :=
  lowerFrom_of_isSmall [] fun _ => isSmall_of_mem_lowerFrom

end RouteAtlas.Text
