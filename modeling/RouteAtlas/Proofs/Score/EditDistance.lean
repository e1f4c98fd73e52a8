import Mathlib.Data.List.Basic
import Mathlib.Order.Bounds.Basic
import Mathlib.Order.MinMax
import RouteAtlas.Score.Word

/-!
# Fewest edits

What the rows compute is the least number of edits that turn one text into another, an edit being
the insertion, deletion or replacement of one character anywhere in the text (`IsEdit`,
`EditsTo`).

Between the two stands the usual recursion on the first characters, `frontDistance`.

* No script of edits is shorter: one more edit changes the distance by at most one
  (`frontDistance_le_of_isEdit`), wherever in the text it is made.
* Some script is as short: the branches of the recursion say which edit to make
  (`editsTo_frontDistance`).
* The rows hold these distances for the beginnings of both texts, read backwards (`nextRow_row`),
  and a script read backwards is a script again (`EditsTo.reverse`).
* Along which of the texts the rows go makes no difference, since a script can be undone
  (`EditsTo.symm`).

That the distance is one in the sense of geometry follows as well, since scripts can be undone and
put one behind the other.
-/

namespace RouteAtlas

/-- One insertion, deletion or replacement of a character turns one text into another. -/
inductive IsEdit : Text → Text → Prop
  | insert (before after : Text) (c : Char) : IsEdit (before ++ after) (before ++ c :: after)
  | delete (before after : Text) (c : Char) : IsEdit (before ++ c :: after) (before ++ after)
  | replace (before after : Text) (c d : Char) :
    IsEdit (before ++ c :: after) (before ++ d :: after)

/-- So many edits, one after the other, turn one text into another. -/
inductive EditsTo : Nat → Text → Text → Prop
  | done (a : Text) : EditsTo 0 a a
  | step {n : Nat} {a b c : Text} : EditsTo n a b → IsEdit b c → EditsTo (n + 1) a c

variable {n m : Nat} {a b c : Text}

/-! ## Scripts -/

namespace IsEdit

/-- An edit can be undone: an insertion by a deletion, and a replacement by another one. -/
theorem symm (h : IsEdit a b) : IsEdit b a := by
  cases h with
  | insert before after c => exact delete before after c
  | delete before after c => exact insert before after c
  | replace before after c d => exact replace before after d c

/-- Read backwards it is an edit of the same kind. -/
theorem reverse (h : IsEdit a b) : IsEdit a.reverse b.reverse := by
  cases h with
  | insert before after c => simpa using insert after.reverse before.reverse c
  | delete before after c => simpa using delete after.reverse before.reverse c
  | replace before after c d => simpa using replace after.reverse before.reverse c d

/-- A character in front of both texts makes no difference. -/
theorem cons (h : IsEdit a b) (x : Char) : IsEdit (x :: a) (x :: b) := by
  cases h with
  | insert before after c => exact insert (x :: before) after c
  | delete before after c => exact delete (x :: before) after c
  | replace before after c d => exact replace (x :: before) after c d

/-- An edit takes away one character at most. -/
theorem length_le (h : IsEdit a b) : a.length ≤ b.length + 1 := by
  cases h with
  | insert before after c => simp only [List.length_append, List.length_cons]; omega
  | delete before after c => simp only [List.length_append, List.length_cons]; omega
  | replace before after c d => simp only [List.length_append, List.length_cons]; omega

end IsEdit

namespace EditsTo

theorem single (h : IsEdit a b) : EditsTo 1 a b := (done a).step h

/-- Scripts can be put one behind the other, and their lengths add up. -/
theorem trans (h : EditsTo n a b) (h' : EditsTo m b c) : EditsTo (n + m) a c := by
  induction h' with
  | done b => exact h
  | step _ hedit ih => exact (ih h).step hedit

/-- **A script can be undone**, edit by edit from its end. -/
theorem symm (h : EditsTo n a b) : EditsTo n b a := by
  induction h with
  | done a => exact done a
  | step _ hedit ih =>
    rw [Nat.add_comm]
    exact (single hedit.symm).trans ih

theorem reverse (h : EditsTo n a b) : EditsTo n a.reverse b.reverse := by
  induction h with
  | done a => exact done a.reverse
  | step _ hedit ih => exact ih.step hedit.reverse

theorem reverse_iff : EditsTo n a.reverse b.reverse ↔ EditsTo n a b := by
  constructor
  · intro h
    have hback := h.reverse
    rwa [List.reverse_reverse, List.reverse_reverse] at hback
  · exact reverse

/-- A character in front of all its texts makes no difference to a script. -/
theorem cons (h : EditsTo n a b) (x : Char) : EditsTo n (x :: a) (x :: b) := by
  induction h with
  | done a => exact done (x :: a)
  | step _ hedit ih => exact ih.step (hedit.cons x)

theorem zero_iff : EditsTo 0 a b ↔ a = b := by
  constructor
  · intro h
    cases h
    rfl
  · intro h
    rw [h]
    exact done b

/-- The lengths of two texts differ by no more than the edits between them. -/
theorem length_le (h : EditsTo n a b) : a.length ≤ b.length + n := by
  induction h with
  | done a => exact Nat.le_refl _
  | step _ hedit ih =>
    have hlast := hedit.length_le
    omega

/-- The empty text becomes any other by inserting its characters. -/
theorem of_nil (b : Text) : EditsTo b.length [] b := by
  induction b with
  | nil => exact done []
  | cons x b ih => exact ih.step (.insert [] b x)

end EditsTo

/-! ## The recursion on the first characters -/

/-- The edit distance, decided by what becomes of the first characters. -/
def frontDistance : Text → Text → Nat
  | [], b => b.length
  | a, [] => a.length
  | c :: a, x :: b =>
    min (min (frontDistance a (x :: b) + 1) (frontDistance (c :: a) b + 1))
      (frontDistance a b + if c = x then 0 else 1)

theorem frontDistance_nil_left (b : Text) : frontDistance [] b = b.length := by
  rw [frontDistance]

theorem frontDistance_nil_right (a : Text) : frontDistance a [] = a.length := by
  cases a with
  | nil => rw [frontDistance]
  | cons c a => rw [frontDistance]; exact List.cons_ne_nil c a

/-- One character is deleted, or one is inserted, or the first ones stand for each other. -/
theorem frontDistance_cons_cons (c x : Char) (a b : Text) :
    frontDistance (c :: a) (x :: b) =
      min (min (frontDistance a (x :: b) + 1) (frontDistance (c :: a) b + 1))
        (frontDistance a b + if c = x then 0 else 1) := by
  rw [frontDistance]

/-! ### No script is shorter -/

/-- One character more makes a distance at most one more. -/
theorem frontDistance_cons_le (c : Char) (a b : Text) :
    frontDistance (c :: a) b ≤ frontDistance a b + 1 := by
  cases b with
  | nil => simp [frontDistance_nil_right]
  | cons x b =>
    rw [frontDistance_cons_cons]
    omega

theorem frontDistance_le_cons (a b : Text) (x : Char) :
    frontDistance a (x :: b) ≤ frontDistance a b + 1 := by
  cases a with
  | nil => simp [frontDistance_nil_left]
  | cons c a =>
    rw [frontDistance_cons_cons]
    omega

/-- A character deleted at the front of the other text brings it nearer by at most one. -/
theorem frontDistance_le_of_delete (a b : Text) (x : Char) :
    frontDistance a b ≤ frontDistance a (x :: b) + 1 := by
  induction a with
  | nil =>
    rw [frontDistance_nil_left, frontDistance_nil_left, List.length_cons]
    omega
  | cons c a ih =>
    have hcons := frontDistance_cons_le c a b
    rw [frontDistance_cons_cons]
    omega

/-- So does one that is replaced there. -/
theorem frontDistance_le_of_replace (a b : Text) (x y : Char) :
    frontDistance a (y :: b) ≤ frontDistance a (x :: b) + 1 := by
  induction a with
  | nil =>
    rw [frontDistance_nil_left, frontDistance_nil_left, List.length_cons, List.length_cons]
    omega
  | cons c a ih =>
    have hreplaced : (if c = y then 0 else 1) ≤ 1 := by split <;> omega
    rw [frontDistance_cons_cons, frontDistance_cons_cons]
    omega

/-- What an edit of the other text changes by at most one, it does behind one more character. -/
theorem frontDistance_cons_le_of_le {b b' : Text}
    (h : ∀ a, frontDistance a b' ≤ frontDistance a b + 1) (x : Char) (a : Text) :
    frontDistance a (x :: b') ≤ frontDistance a (x :: b) + 1 := by
  induction a with
  | nil =>
    have hnil := h []
    rw [frontDistance_nil_left, frontDistance_nil_left] at hnil ⊢
    simpa using hnil
  | cons c a ih =>
    have hsame := h (c :: a)
    have hfewer := h a
    rw [frontDistance_cons_cons, frontDistance_cons_cons]
    omega

/-- What holds of two texts, one edit apart, holds of them behind the same beginning. The induction
is on that beginning, for every text on the other side. -/
theorem frontDistance_append_le_of_le {b b' : Text}
    (h : ∀ a, frontDistance a b' ≤ frontDistance a b + 1) (before a : Text) :
    frontDistance a (before ++ b') ≤ frontDistance a (before ++ b) + 1 := by
  induction before generalizing a with
  | nil => exact h a
  | cons x before ih => exact frontDistance_cons_le_of_le ih x a

/-- One more edit adds at most one to the distance. -/
theorem frontDistance_le_of_isEdit (h : IsEdit b c) (a : Text) :
    frontDistance a c ≤ frontDistance a b + 1 := by
  cases h with
  | insert before after x =>
    exact frontDistance_append_le_of_le (fun a => frontDistance_le_cons a after x) before a
  | delete before after x =>
    exact frontDistance_append_le_of_le (fun a => frontDistance_le_of_delete a after x) before a
  | replace before after x y =>
    exact frontDistance_append_le_of_le (fun a => frontDistance_le_of_replace a after x y) before a

theorem frontDistance_self (a : Text) : frontDistance a a = 0 := by
  induction a with
  | nil => rw [frontDistance_nil_left, List.length_nil]
  | cons c a ih =>
    rw [frontDistance_cons_cons, if_pos rfl, ih]
    omega

/-- **No script is shorter.** The induction is on the script, which starts at distance 0. -/
theorem frontDistance_le_of_editsTo (h : EditsTo n a b) : frontDistance a b ≤ n := by
  induction h with
  | done a => rw [frontDistance_self]
  | @step n a b c _ hedit ih =>
    have hlast := frontDistance_le_of_isEdit hedit a
    omega

/-! ### Some script is as short -/

/-- **Some script is as short.** The induction is the recursion itself: each of its branches ends
with the edit that the branch counts. -/
theorem editsTo_frontDistance (a b : Text) : EditsTo (frontDistance a b) a b := by
  induction a, b using frontDistance.induct with
  | case1 b =>
    rw [frontDistance_nil_left]
    exact .of_nil b
  | case2 a _ =>
    rw [frontDistance_nil_right]
    exact (EditsTo.of_nil a).symm
  | case3 c a x b hdelete hinsert hboth =>
    have hdeleted : EditsTo (frontDistance a (x :: b) + 1) (c :: a) (x :: b) := by
      rw [Nat.add_comm]
      exact (EditsTo.single (.delete [] a c)).trans hdelete
    have hinserted : EditsTo (frontDistance (c :: a) b + 1) (c :: a) (x :: b) :=
      hinsert.step (.insert [] b x)
    have hreplaced : EditsTo (frontDistance a b + if c = x then 0 else 1) (c :: a) (x :: b) := by
      split
      next heq => exact heq ▸ hboth.cons c
      next => exact (hboth.cons c).step (.replace [] b c x)
    rw [frontDistance_cons_cons]
    -- The least of the three is one of them.
    rcases min_choice (min (frontDistance a (x :: b) + 1) (frontDistance (c :: a) b + 1))
      (frontDistance a b + if c = x then 0 else 1) with h | h
    · rw [h]
      rcases min_choice (frontDistance a (x :: b) + 1) (frontDistance (c :: a) b + 1) with h' | h'
      · rw [h']
        exact hdeleted
      · rw [h']
        exact hinserted
    · rw [h]
      exact hreplaced

/-- The characters can be replaced in order, and those that are left over are deleted or inserted.
-/
theorem frontDistance_le_max (a b : Text) : frontDistance a b ≤ max a.length b.length := by
  induction a, b using frontDistance.induct with
  | case1 b =>
    rw [frontDistance_nil_left]
    exact le_max_right _ _
  | case2 a _ =>
    rw [frontDistance_nil_right]
    exact le_max_left _ _
  | case3 c a x b _ _ hboth =>
    have hreplaced : (if c = x then 0 else 1) ≤ 1 := by split <;> omega
    rw [frontDistance_cons_cons, List.length_cons, List.length_cons]
    omega

/-! ## The rows -/

/-- The row of a text against the beginnings of `b`, all read backwards: what stands before `b` is
`q`, and the entry for `q` alone has been written. -/
def rowFrom (p q : Text) : Text → List Nat
  | [] => []
  | x :: b => frontDistance p (x :: q) :: rowFrom p (x :: q) b

/-- The row of a text, read backwards, against all beginnings of `b`. -/
def row (p b : Text) : List Nat := frontDistance p [] :: rowFrom p [] b

/-- One row is made from the one above, cell by cell from the left. The induction is on the columns
that are left, with the cells to the left and above them at hand. -/
theorem extendRow_rowFrom (c : Char) (p q b : Text) :
    extendRow c (frontDistance (c :: p) q) (frontDistance p q) b (rowFrom p q b) =
      rowFrom (c :: p) q b := by
  induction b generalizing q with
  | nil => rfl
  | cons x b ih =>
    rw [rowFrom, rowFrom, extendRow, ← frontDistance_cons_cons, ih]

/-- The row is carried over to the next character. -/
theorem nextRow_row (c : Char) (p b : Text) : nextRow b (row p b) c = row (c :: p) b := by
  have hfirst : frontDistance p [] + 1 = frontDistance (c :: p) [] := by
    rw [frontDistance_nil_right, frontDistance_nil_right, List.length_cons]
  rw [row, nextRow, hfirst, extendRow_rowFrom, row]

theorem rowFrom_nil (q b : Text) : rowFrom [] q b = List.range' (q.length + 1) b.length := by
  induction b generalizing q with
  | nil => rfl
  | cons x b ih =>
    rw [rowFrom, ih, frontDistance_nil_left, List.length_cons, List.length_cons,
      List.range'_succ]

theorem firstRow_eq_row (b : Text) : firstRow b = row [] b := by
  rw [firstRow, row, rowFrom_nil, frontDistance_nil_left, List.range_eq_range',
    List.range'_succ]
  rfl

/-- **The last row** belongs to the whole text, read backwards since the first character came first.
-/
theorem foldl_nextRow_row (a p b : Text) :
    a.foldl (nextRow b) (row p b) = row (a.reverse ++ p) b := by
  induction a generalizing p with
  | nil => rfl
  | cons c a ih =>
    rw [List.foldl_cons, nextRow_row, ih, List.reverse_cons, List.append_assoc,
      List.singleton_append]

/-- The last entry of a row is about all of `b`. -/
theorem getLastD_rowFrom (p q b : Text) :
    (frontDistance p q :: rowFrom p q b).getLastD 0 = frontDistance p (b.reverse ++ q) := by
  induction b generalizing q with
  | nil => rfl
  | cons x b ih =>
    rw [List.reverse_cons, List.append_assoc, List.singleton_append, ← ih (x :: q), rowFrom,
      List.getLastD_cons, List.getLastD_cons, List.getLastD_cons]

/-- The rows compute the recursion on the last characters. -/
theorem rowDistance_eq_frontDistance (a b : Text) :
    rowDistance a b = frontDistance a.reverse b.reverse := by
  rw [rowDistance]
  split
  next hempty =>
    rw [List.isEmpty_iff.mp hempty, List.reverse_nil, frontDistance_nil_right, List.length_reverse]
  next =>
    rw [firstRow_eq_row, foldl_nextRow_row, row, getLastD_rowFrom, List.append_nil, List.append_nil]

/-- What stands at the end of the last row is the least length of a script. -/
theorem isLeast_rowDistance (a b : Text) : IsLeast {n | EditsTo n a b} (rowDistance a b) := by
  rw [rowDistance_eq_frontDistance]
  constructor
  · exact EditsTo.reverse_iff.mp (editsTo_frontDistance a.reverse b.reverse)
  · intro n hn
    exact frontDistance_le_of_editsTo hn.reverse

theorem rowDistance_le_max (a b : Text) : rowDistance a b ≤ max a.length b.length := by
  rw [rowDistance_eq_frontDistance]
  simpa using frontDistance_le_max a.reverse b.reverse

/-! ## The distance -/

/-- Both ways the same numbers of edits are enough. -/
theorem setOf_editsTo_comm (a b : Text) : {n | EditsTo n a b} = {n | EditsTo n b a} :=
  Set.ext fun _ => ⟨EditsTo.symm, EditsTo.symm⟩

/-- The rows go along the shorter text, which makes no difference, for scripts can be undone. -/
theorem isLeast_editDistance (a b : Text) : IsLeast {n | EditsTo n a b} (editDistance a b) := by
  rw [editDistance]
  split
  · rw [setOf_editsTo_comm]
    exact isLeast_rowDistance b a
  · exact isLeast_rowDistance a b

/-- The distance is no more than the longer text has characters. -/
theorem editDistance_le_max (a b : Text) : editDistance a b ≤ max a.length b.length := by
  rw [editDistance]
  split
  · rw [max_comm]
    exact rowDistance_le_max b a
  · exact rowDistance_le_max a b

/-- No edits are needed only between equal texts. -/
theorem editDistance_eq_zero_iff : editDistance a b = 0 ↔ a = b := by
  rw [← EditsTo.zero_iff]
  constructor
  · intro h
    rw [← h]
    exact (isLeast_editDistance a b).1
  · intro h
    exact Nat.le_zero.mp ((isLeast_editDistance a b).2 h)

theorem editDistance_comm (a b : Text) : editDistance a b = editDistance b a := by
  refine (isLeast_editDistance a b).unique ?_
  rw [setOf_editsTo_comm]
  exact isLeast_editDistance b a

/-- **The edit distance is the least number of edits** that turn one text into the other. Hence it
is the same both ways, 0 only between equal texts, no longer than any detour, and it lies between
the difference of the lengths and the greater one. -/
theorem editDistance_is_fewest_edits (a b : Text) :
    IsLeast {n | EditsTo n a b} (editDistance a b) ∧
      editDistance b a = editDistance a b ∧
      (editDistance a b = 0 ↔ a = b) ∧
      (∀ c, editDistance a c ≤ editDistance a b + editDistance b c) ∧
      max a.length b.length - min a.length b.length ≤ editDistance a b ∧
      editDistance a b ≤ max a.length b.length := by
  have hscript (a b : Text) : EditsTo (editDistance a b) a b := (isLeast_editDistance a b).1
  have hleast {n : Nat} {a b : Text} (h : EditsTo n a b) : editDistance a b ≤ n :=
    (isLeast_editDistance a b).2 h
  refine ⟨isLeast_editDistance a b, ?_, ?_, ?_, ?_, editDistance_le_max a b⟩
  · exact Nat.le_antisymm (hleast (hscript a b).symm) (hleast (hscript b a).symm)
  · constructor
    · intro h
      have hnone := hscript a b
      rw [h] at hnone
      exact EditsTo.zero_iff.mp hnone
    · intro h
      exact Nat.le_zero.mp (hleast (EditsTo.zero_iff.mpr h))
  · -- A script from one text to the second and one on to the third make a detour.
    intro c
    exact hleast ((hscript a b).trans (hscript b c))
  · -- Each edit changes the length by one at most.
    have hforth := (hscript a b).length_le
    have hback := (hscript a b).symm.length_le
    omega

end RouteAtlas
