import RouteAtlas.Text.Blank

/-!
# The lines of a text

Lines that hold no character that ends a line are what a text consists of that is put together from
them: with a line feed behind each, or between each two if the last one is not empty. Whatever is
put in the middle of a text without ending a line belongs to one line of it
(`exists_lines_append`).
-/

namespace RouteAtlas.Text

/-- Nothing in the text ends a line. -/
def IsLine (line : Text) : Prop := ∀ c ∈ line, endsLine c = false

instance (line : Text) : Decidable (IsLine line) :=
  List.decidableBAll (endsLine · = false) line

theorem IsLine.append {front back : Text} (hfront : IsLine front) (hback : IsLine back) :
    IsLine (front ++ back) :=
  List.forall_mem_append.mpr ⟨hfront, hback⟩

variable {line : Text} {lines' : List Text}

theorem linesFrom_cons {c : Char} (h : endsLine c = false) (begun rest : Text) :
    linesFrom begun (c :: rest) = linesFrom (c :: begun) rest := by
  have hreturn : c ≠ '\r' := by
    rintro rfl
    cases h
  rw [linesFrom, if_neg (by simp [h])]
  rintro rest' rfl
  exact absurd rfl hreturn

/-- A line goes on as far as nothing ends it. -/
theorem linesFrom_append (h : IsLine line) (begun rest : Text) :
    linesFrom begun (line ++ rest) = linesFrom (line.reverse ++ begun) rest := by
  induction line generalizing begun with
  | nil => rfl
  | cons c line ih =>
    rw [IsLine, List.forall_mem_cons] at h
    rw [List.cons_append, linesFrom_cons h.1, ih h.2]
    simp

theorem linesFrom_lineFeed (begun rest : Text) :
    linesFrom begun ('\n' :: rest) = begun.reverse :: linesFrom [] rest := by
  rw [linesFrom, if_pos (by decide)]
  simp

/-- A line with a line feed behind it is the first one. -/
theorem lines_append (h : IsLine line) (rest : Text) :
    lines (line ++ '\n' :: rest) = line :: lines rest := by
  rw [lines, linesFrom_append h, linesFrom_lineFeed]
  simp [lines]

/-- The lines of a text in which each line has a line feed behind it. -/
theorem lines_flatMap (h : ∀ line ∈ lines', IsLine line) :
    lines (lines'.flatMap (· ++ ['\n'])) = lines' := by
  induction lines' with
  | nil => rfl
  | cons line lines' ih =>
    rw [List.forall_mem_cons] at h
    rw [List.flatMap_cons, List.append_assoc, List.singleton_append, lines_append h.1, ih h.2]

/-- The lines of a text in which a line feed stands between each two lines. -/
theorem lines_joinWith (h : ∀ line ∈ lines', IsLine line) (hlast : lines'.getLast? ≠ some []) :
    lines (joinWith ['\n'] lines') = lines' := by
  induction lines' with
  | nil => rfl
  | cons line rest ih =>
    rw [List.forall_mem_cons] at h
    cases rest with
    | nil =>
      have hne : line ≠ [] := by simpa using hlast
      have hlines := linesFrom_append h.1 [] []
      rw [List.append_nil, List.append_nil] at hlines
      rw [joinWith, List.intercalate_singleton, lines, hlines, linesFrom,
        if_neg (by simpa using hne), List.reverse_reverse]
    | cons next rest =>
      have hrest := ih h.2 (by simpa using hlast)
      rw [joinWith, List.intercalate_cons_cons, List.append_assoc, List.singleton_append,
        lines_append h.1]
      rw [joinWith] at hrest
      rw [hrest]

/-! ## A text that goes on -/

/-- The lines of a text that are over, and what stands behind the last line end. `begun` holds the
current line backwards. -/
def brokenFrom : Text → Text → List Text × Text
  | begun, [] => ([], begun.reverse)
  | begun, '\r' :: '\n' :: rest =>
    let (done, current) := brokenFrom [] rest
    (begun.reverse :: done, current)
  | begun, c :: rest =>
    if endsLine c then
      let (done, current) := brokenFrom [] rest
      (begun.reverse :: done, current)
    else brokenFrom (c :: begun) rest

/-- The lines of a text that are over. -/
def fullLines (s : Text) : List Text := (brokenFrom [] s).1

/-- What stands behind the last line end of a text. -/
def openLine (s : Text) : Text := (brokenFrom [] s).2

/-- A text that goes on has the lines that are over, and then those that its last line goes on
to. -/
theorem linesFrom_brokenFrom (begun s : Text) {rest : Text} (h : rest.head? ≠ some '\n') :
    linesFrom begun (s ++ rest) =
      (brokenFrom begun s).1 ++ linesFrom (brokenFrom begun s).2.reverse rest := by
  fun_induction brokenFrom begun s with
  | case1 begun => simp
  | case2 begun s done current hbroken ih =>
    rw [hbroken] at ih
    rw [List.cons_append, List.cons_append, linesFrom, ih]
    rfl
  | case3 begun c s hreturn hends done current hbroken ih =>
    rw [hbroken] at ih
    rw [List.cons_append, linesFrom, if_pos hends, ih]
    · rfl
    · rintro rest' rfl hfeed
      cases s with
      | nil =>
        rw [List.nil_append] at hfeed
        exact h (by rw [hfeed]; rfl)
      | cons d s =>
        cases hfeed
        exact hreturn s rfl rfl
  | case4 begun c s hreturn hends ih =>
    rw [List.cons_append, linesFrom, if_neg hends, ih]
    rintro rest' rfl hcons
    exact absurd rfl hends

/-- A line that has begun goes on in the same way, whatever it began with. -/
theorem exists_linesFrom (s : Text) :
    ∃ back below, ∀ begun, begun ≠ [] → linesFrom begun s = (begun.reverse ++ back) :: below := by
  induction s with
  | nil =>
    refine ⟨[], [], fun begun hbegun => ?_⟩
    rw [linesFrom, if_neg (by simpa using hbegun), List.append_nil]
  | cons c s ih =>
    by_cases hends : endsLine c = true
    · refine ⟨[], (linesFrom [] (c :: s)).tail, fun begun _ => ?_⟩
      rw [List.append_nil]
      by_cases hreturn : ∃ rest, c = '\r' ∧ s = '\n' :: rest
      · obtain ⟨rest, rfl, rfl⟩ := hreturn
        rw [linesFrom, linesFrom]
        rfl
      · have hlines (begun : Text) : linesFrom begun (c :: s) = begun.reverse :: linesFrom [] s := by
          rw [linesFrom, if_pos hends]
          rintro rest rfl rfl
          exact hreturn ⟨rest, rfl, rfl⟩
        rw [hlines, hlines]
        rfl
    · obtain ⟨back, below, hlines⟩ := ih
      refine ⟨c :: back, below, fun begun hbegun => ?_⟩
      rw [linesFrom_cons (by simpa using hends), hlines _ (List.cons_ne_nil c begun)]
      simp

/-- A piece within a line belongs to that line alone. -/
theorem exists_lines_append (before after : Text) :
    ∃ back below, ∀ piece, IsLine piece → piece ≠ [] →
      lines (before ++ (piece ++ after)) =
        fullLines before ++ (openLine before ++ (piece ++ back)) :: below := by
  obtain ⟨back, below, hlines⟩ := exists_linesFrom after
  refine ⟨back, below, fun piece hpiece hne => ?_⟩
  have hfeed : (piece ++ after).head? ≠ some '\n' := by
    obtain ⟨c, piece, rfl⟩ := List.exists_cons_of_ne_nil hne
    rintro ⟨⟩
    exact absurd (hpiece '\n' (by simp)) (by decide)
  rw [lines, linesFrom_brokenFrom [] before hfeed, linesFrom_append hpiece,
    hlines _ (by simp [hne])]
  simp [fullLines, openLine]

end RouteAtlas.Text
