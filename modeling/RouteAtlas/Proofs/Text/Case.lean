import RouteAtlas.Text.Case

/-!
# Case mapping keeps texts from vanishing

Neither case mapping drops a character, though both may make several of one. So a text has
characters in lower case (`lower_eq_nil_iff`) and in upper case (`upper_eq_nil_iff`) exactly if it
has any.

A text of ASCII is put in lower case character by character (`lower_eq_map_of_ascii`). What there is
to know of the 128 characters of ASCII is found by going through them (`forall_ascii`).
-/

namespace RouteAtlas.Text

/-! ## Lower case -/

/-- Every character becomes one, but for the dotted capital, which becomes two. -/
theorem length_lowerFrom (before s : Text) :
    (lowerFrom before s).length = s.length + s.count 'İ' := by
  induction s generalizing before with
  | nil => rfl
  | cons c s ih =>
    rw [lowerFrom, List.length_append, ih, List.length_cons]
    by_cases hdotted : c = 'İ'
    · have hsmall : c ≠ 'Σ' := by
        rw [hdotted]
        decide
      rw [if_neg hsmall, if_pos hdotted, hdotted, List.count_cons_self, List.length_cons,
        List.length_singleton]
      omega
    · rw [if_neg hdotted, List.count_cons_of_ne hdotted]
      split
      · split <;> rw [List.length_singleton] <;> omega
      · rw [List.length_singleton]
        omega

/-- Only one capital becomes two characters. -/
theorem length_lower (s : Text) : (lower s).length = s.length + s.count 'İ' :=
  length_lowerFrom [] s

/-- No text gets shorter in lower case. -/
theorem length_le_length_lower (s : Text) : s.length ≤ (lower s).length := by
  rw [length_lower]
  exact Nat.le_add_right _ _

/-- A part of a text that is the same in lower case is the whole text. -/
theorem eq_of_sublist_of_lower_eq {part s : Text} (h : part.Sublist s)
    (hlower : lower part = lower s) : part = s := by
  have hlength := congrArg List.length hlower
  rw [length_lower, length_lower] at hlength
  have hcount := h.count_le 'İ'
  have hshorter := h.length_le
  exact h.eq_of_length (by omega)

theorem lower_eq_nil_iff {s : Text} : lower s = [] ↔ s = [] := by
  constructor
  · intro h
    have hlength := length_le_length_lower s
    rw [h] at hlength
    exact List.length_eq_zero_iff.mp (Nat.le_zero.mp hlength)
  · rintro rfl
    rfl

/-! ## Upper case -/

/-- A row of the table of long capitals spells something. -/
theorem ne_nil_of_mem_longRowsFrom {codes : List Int} {current : Option (Nat × Text)}
    {pending : Nat} {row : Nat × Text} (h : row ∈ longRowsFrom codes current pending) :
    row.2 ≠ [] := by
  fun_induction longRowsFrom codes current pending with
  | case1 code count rest pending ih => exact ih h
  | case2 next rest code spelled spelled' ih =>
    rcases List.mem_cons.mp h with rfl | hrest
    · exact List.concat_ne_nil _ _
    · exact ih hrest
  | case3 next rest code spelled spelled' pending hmore ih => exact ih h
  | case4 => exact absurd h List.not_mem_nil

theorem upperOf_ne_nil (c : Char) : upperOf c ≠ [] := by
  unfold upperOf
  split
  next => exact List.cons_ne_nil _ _
  next =>
    split
    next spelled hfind => exact ne_nil_of_mem_longRowsFrom (List.mem_of_find?_eq_some hfind)
    next => exact List.cons_ne_nil _ _

theorem upper_eq_nil_iff {s : Text} : upper s = [] ↔ s = [] := by
  cases s with
  | nil => exact iff_of_true rfl rfl
  | cons c s =>
    refine iff_of_false (fun h => ?_) (List.cons_ne_nil c s)
    rw [upper, List.flatMap_cons, List.append_eq_nil_iff] at h
    exact upperOf_ne_nil c h.1

/-! ## ASCII -/

/-- All characters of the text are of ASCII. -/
def IsAscii (s : Text) : Prop := ∀ c ∈ s, c.toNat < 128

instance (s : Text) : Decidable s.IsAscii := List.decidableBAll _ s

/-- What holds of the first 128 characters holds of ASCII. -/
theorem forall_ascii {p : Char → Prop} (h : ∀ n < 128, p (Char.ofNat n)) {c : Char}
    (hc : c.toNat < 128) : p c := by
  have hp := h c.toNat hc
  rwa [Char.ofNat_toNat] at hp

variable {c v : Char}

/-- The small letters of ASCII are in ASCII. -/
theorem toNat_lowerChar_lt (hc : c.toNat < 128) : (lowerChar c).toNat < 128 :=
  forall_ascii (p := fun c => (lowerChar c).toNat < 128) (by decide) hc

/-- The small letter of a capital has case. -/
theorem isCased_lowerChar (hc : c.toNat < 128) (h : lowerChar c ≠ c) :
    isCased (lowerChar c) = true :=
  forall_ascii (p := fun c => lowerChar c ≠ c → isCased (lowerChar c) = true) (by decide) hc h

/-- A character without case is its own small letter. -/
theorem lowerChar_of_not_isCased (h : isCased c = false) : lowerChar c = c := by
  rw [isCased, Bool.or_eq_false_iff] at h
  exact bne_eq_false_iff_eq.mp h.1

/-- What counts as the same as a letter of ASCII without being it is beyond ASCII. -/
theorem eq_lowerChar_of_mem_lowerVariants (hc : c.toNat < 128)
    (hv : v ∈ lowerVariants (lowerChar c)) (hascii : v.toNat < 128) : v = lowerChar c := by
  have hall : ((lowerVariants (lowerChar c)).all fun v =>
      v == lowerChar c || decide (128 ≤ v.toNat)) = true :=
    forall_ascii
      (p := fun c => ((lowerVariants (lowerChar c)).all fun v =>
        v == lowerChar c || decide (128 ≤ v.toNat)) = true)
      (by decide +kernel) hc
  have hvariant := List.all_eq_true.mp hall v hv
  rw [Bool.or_eq_true, beq_iff_eq, decide_eq_true_eq] at hvariant
  rcases hvariant with hsame | hbeyond
  · exact hsame
  · omega

theorem mem_lowerVariants_self (c : Char) : c ∈ lowerVariants c := by
  unfold lowerVariants
  split
  next => exact List.mem_singleton_self c
  next => exact List.mem_cons_self

/-- A text of ASCII is put in lower case character by character. -/
theorem lower_eq_map_of_ascii {s : Text} (h : s.IsAscii) : lower s = s.map lowerChar := by
  have hfrom : ∀ before, lowerFrom before s = s.map lowerChar := by
    induction s with
    | nil => exact fun _ => rfl
    | cons c s ih =>
      obtain ⟨hc, hs⟩ := List.forall_mem_cons.mp h
      intro before
      have hsigma : c ≠ 'Σ' := by
        rintro rfl
        exact absurd hc (by decide)
      have hdotted : c ≠ 'İ' := by
        rintro rfl
        exact absurd hc (by decide)
      rw [lowerFrom, if_neg hsigma, if_neg hdotted, ih hs]
      rfl
  exact hfrom []

end RouteAtlas.Text
