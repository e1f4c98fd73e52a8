import Mathlib.Data.Char
import Mathlib.Data.List.Lex
import Mathlib.Data.List.Nodup
import Mathlib.Data.Prod.Lex
import RouteAtlas.Text.Basic

/-!
# Sorting by a key

Ranked hits, listings and the names in a directory are all the outcome of one
stable merge sort, under a boolean order that compares keys: `SortsBy le key`. This
file collects what such a sort is good for, whatever is sorted:

* `pairwise_mergeSort`: keys ascend, and elements with equal keys keep any relation
  that the input had along the list, in particular "stood further in front";
* `map_key_mergeSort_eq_of_perm`: the sorted sequence of keys does not depend on the
  order of the input;
* `filter_mergeSort`: sorting what a test keeps gives the same as keeping it of the
  sorted list;
* `eq_of_filter_key_eq`: two ascending lists with the same elements under each key, in the same
  order, are equal;
* `filter_eq_take_countP`: what an upward closed test keeps of a descending list is
  the beginning of the list.
-/

namespace RouteAtlas

/-! ## Sorting by a key -/

/-- The boolean order of texts is the lexicographic one, by code points. -/
theorem Text.le_eq_true_iff {a b : Text} : Text.le a b = true ↔ a ≤ b := by
  rw [Text.le, Bool.not_eq_true', decide_eq_false_iff_not, not_lt]

/-- A boolean order that puts elements by a key. -/
def SortsBy {α β : Type} [LE β] (le : α → α → Bool) (key : α → β) : Prop :=
  ∀ a b, le a b = true ↔ key a ≤ key b

namespace SortsBy

variable {α β : Type} [LinearOrder β] {le : α → α → Bool} {key : α → β}

theorem trans (h : SortsBy le key) (a b c : α) (hab : le a b = true) (hbc : le b c = true) :
    le a c = true :=
  (h a c).mpr (((h a b).mp hab).trans ((h b c).mp hbc))

theorem total (h : SortsBy le key) (a b : α) : (le a b || le b a) = true := by
  rw [Bool.or_eq_true, h a b, h b a]
  exact le_total (key a) (key b)

/-- **Stability.** Keys ascend, and elements with equal keys keep whatever relation the
input had from each element to every later one. -/
theorem pairwise_mergeSort (h : SortsBy le key) {Q : α → α → Prop} {l : List α}
    (hQ : l.Pairwise Q) :
    (l.mergeSort le).Pairwise fun a b => key a < key b ∨ key a = key b ∧ Q a b := by
  -- sort the elements together with their places: that sort breaks ties by place
  have hsorted := List.pairwise_mergeSort (List.zipIdxLE_trans h.trans)
    (List.zipIdxLE_total h.total) l.zipIdx
  have hperm := List.mergeSort_perm l.zipIdx (List.zipIdxLE le)
  have hplaces : ((l.zipIdx.mergeSort (List.zipIdxLE le)).map Prod.snd).Nodup := by
    rw [(hperm.map Prod.snd).nodup_iff, List.zipIdx_map_snd]
    exact List.nodup_range'
  rw [← List.mergeSort_zipIdx, List.pairwise_map]
  refine (hsorted.and (List.pairwise_map.mp hplaces)).imp_of_mem ?_
  rintro ⟨a, i⟩ ⟨b, j⟩ ha hb ⟨hle, hne⟩
  have hi := List.mem_zipIdx_iff_getElem?.mp (hperm.mem_iff.mp ha)
  have hj := List.mem_zipIdx_iff_getElem?.mp (hperm.mem_iff.mp hb)
  simp only [List.zipIdxLE] at hle
  split at hle
  next hab =>
    rcases lt_or_eq_of_le ((h a b).mp hab) with hlt | heq
    · exact Or.inl hlt
    · rw [if_pos ((h b a).mpr heq.ge), decide_eq_true_eq] at hle
      obtain ⟨hil, ha⟩ := List.getElem?_eq_some_iff.mp hi
      obtain ⟨hjl, hb⟩ := List.getElem?_eq_some_iff.mp hj
      have hij : Q l[i] l[j] :=
        List.pairwise_iff_getElem.mp hQ i j hil hjl (lt_of_le_of_ne hle hne)
      rw [ha, hb] at hij
      exact Or.inr ⟨heq, hij⟩
  next => exact absurd hle (by simp)

/-- The sorted sequence of keys depends on the elements and not on the order in which
they came. -/
theorem map_key_mergeSort_eq_of_perm (h : SortsBy le key) {l l' : List α} (hl : l.Perm l') :
    (l.mergeSort le).map key = (l'.mergeSort le).map key := by
  have ascends : ∀ l : List α, ((l.mergeSort le).map key).Pairwise (· ≤ ·) := fun l =>
    List.pairwise_map.mpr
      ((List.pairwise_mergeSort h.trans h.total l).imp fun hab => (h _ _).mp hab)
  refine List.Perm.eq_of_pairwise (fun a b _ _ hab hba => le_antisymm hab hba)
    (ascends l) (ascends l') ?_
  exact (((List.mergeSort_perm l le).trans hl).trans (List.mergeSort_perm l' le).symm).map key

/-- One more element in front comes to stand behind those that must stand before it, in front of
all others, and moves none of them. -/
theorem mergeSort_cons_eq (h : SortsBy le key) (a : α) (l : List α) :
    (a :: l).mergeSort le =
        (l.mergeSort le).filter (!le a ·) ++ a :: (l.mergeSort le).filter (le a ·) ∧
      l.mergeSort le = (l.mergeSort le).filter (!le a ·) ++ (l.mergeSort le).filter (le a ·) := by
  obtain ⟨before, after, hcons, hsort, hbefore⟩ := List.mergeSort_cons h.trans h.total a l
  have hafter : ∀ b ∈ after, le a b = true := by
    have hsorted := List.pairwise_mergeSort h.trans h.total (a :: l)
    rw [hcons] at hsorted
    exact (List.pairwise_cons.mp (List.pairwise_append.mp hsorted).2.1).1
  have hleft : (before ++ after).filter (!le a ·) = before := by
    rw [List.filter_append, List.filter_eq_self.mpr hbefore,
      List.filter_eq_nil_iff.mpr (by simpa using hafter), List.append_nil]
  have hright : (before ++ after).filter (le a ·) = after := by
    rw [List.filter_append, List.filter_eq_self.mpr hafter,
      List.filter_eq_nil_iff.mpr (by simpa using hbefore), List.nil_append]
  rw [hsort, hleft, hright]
  exact ⟨hcons, rfl⟩

/-- **Sorting commutes with keeping some of the elements**: whatever a test keeps of a sorted list
stands there as if it had been sorted alone. -/
theorem filter_mergeSort (h : SortsBy le key) (p : α → Bool) (l : List α) :
    (l.mergeSort le).filter p = (l.filter p).mergeSort le := by
  induction l with
  | nil => rw [List.mergeSort_nil, List.filter_nil, List.mergeSort_nil]
  | cons a l ih =>
    rw [(h.mergeSort_cons_eq a l).1, List.filter_append, List.filter_comm, ih]
    by_cases ha : p a = true
    · rw [List.filter_cons_of_pos ha, List.filter_cons_of_pos ha, List.filter_comm, ih,
        (h.mergeSort_cons_eq a (l.filter p)).1]
    · rw [List.filter_cons_of_neg ha, List.filter_cons_of_neg ha, List.filter_comm, ih]
      exact (h.mergeSort_cons_eq a (l.filter p)).2.symm

end SortsBy

/-! ## Lists with the same members at each key -/

theorem mem_iff_of_filter_key_eq {α β : Type} [DecidableEq β] {key : α → β} {l m : List α}
    (h : ∀ k, l.filter (key · = k) = m.filter (key · = k)) (a : α) : a ∈ l ↔ a ∈ m := by
  have hfilter : a ∈ l.filter (key · = key a) ↔ a ∈ m.filter (key · = key a) := by rw [h]
  simpa using hfilter

/-- **An ascending list is known by what it has under each key.** -/
theorem eq_of_filter_key_eq {α β : Type} [LinearOrder β] {key : α → β} {l m : List α}
    (hl : l.Pairwise fun a b => key a ≤ key b) (hm : m.Pairwise fun a b => key a ≤ key b)
    (h : ∀ k, l.filter (key · = k) = m.filter (key · = k)) : l = m := by
  induction l generalizing m with
  | nil =>
    refine (List.eq_nil_iff_forall_not_mem.mpr fun a ha => ?_).symm
    exact nomatch (mem_iff_of_filter_key_eq h a).mpr ha
  | cons a l ih =>
    have hmem := mem_iff_of_filter_key_eq h
    cases m with
    | nil => exact nomatch (hmem a).mp List.mem_cons_self
    | cons b m =>
      obtain ⟨ha, hl⟩ := List.pairwise_cons.mp hl
      obtain ⟨hb, hm⟩ := List.pairwise_cons.mp hm
      have hab : key a ≤ key b := by
        rcases List.mem_cons.mp ((hmem b).mpr List.mem_cons_self) with heq | hlater
        · rw [heq]
        · exact ha b hlater
      have hba : key b ≤ key a := by
        rcases List.mem_cons.mp ((hmem a).mp List.mem_cons_self) with heq | hlater
        · rw [heq]
        · exact hb a hlater
      have hkey : key b = key a := le_antisymm hba hab
      -- the two are the first under their key, so they are the same
      have hfirst := h (key a)
      rw [List.filter_cons_of_pos (by simp), List.filter_cons_of_pos (by simp [hkey])] at hfirst
      have hsame : a = b := (List.cons_eq_cons.mp hfirst).1
      rw [← hsame] at h ⊢
      refine congrArg (List.cons a) (ih hl hm fun k => ?_)
      have hk := h k
      by_cases hak : key a = k
      · rw [List.filter_cons_of_pos (by simp [hak]), List.filter_cons_of_pos (by simp [hak])] at hk
        exact (List.cons_eq_cons.mp hk).2
      · rwa [List.filter_cons_of_neg (by simp [hak]), List.filter_cons_of_neg (by simp [hak])] at hk

/-! ## Places and beginnings -/

/-- Places ascend along a list. -/
theorem pairwise_place_zipIdx {α : Type} (l : List α) : l.zipIdx.Pairwise fun a b => a.2 < b.2 := by
  rw [← List.pairwise_map (f := Prod.snd) (R := (· < ·)), List.zipIdx_map_snd]
  exact List.pairwise_lt_range'

/-- Along a list on which an upward closed test holds at first and then fails, what the
test keeps is the beginning. -/
theorem filter_eq_take_countP {α : Type} {p : α → Bool} :
    ∀ {l : List α}, l.Pairwise (fun a b => p b = true → p a = true) →
      l.filter p = l.take (l.countP p) := by
  intro l
  induction l with
  | nil => intro _; rfl
  | cons a l ih =>
    intro h
    obtain ⟨ha, hl⟩ := List.pairwise_cons.mp h
    by_cases hp : p a = true
    · rw [List.filter_cons_of_pos hp, List.countP_cons_of_pos hp, List.take_succ_cons, ih hl]
    · have hnone : ∀ b ∈ l, ¬ p b = true := fun b hb hpb => hp (ha b hb hpb)
      rw [List.filter_cons_of_neg hp, List.countP_cons_of_neg hp, ih hl,
        List.countP_eq_zero.mpr hnone, List.take_zero, List.take_zero]

end RouteAtlas
