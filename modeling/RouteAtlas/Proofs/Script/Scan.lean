import RouteAtlas.Script.Scan

/-!
# The lines of tokens

The tokens of a script stand in the order of their lines, and what follows the end of a logical line
is on a later line (`inOrder_of_tokens?`). The scanner adds each token on the line that it has come
to (`Scanner.IsInOrder`), and it never goes back; at the end of a logical line it goes on to the
next line at once.

The invariant is kept by each thing that the scanner does (`IsInOrder.step`): what passes characters
without finding anything, what adds one token or several, and what ends a line. Only the last one
may add the end of a line, so of all other tokens it has to be known that they are something else; a
name or a literal never is one. The run over a text is then an induction on what is left of it.
-/

namespace RouteAtlas.Script

/-- What comes behind the token may be on the line: it is no earlier one, and a later one if the
token ends a logical line. -/
structure Placed.MayPrecede (p : Placed) (line : Nat) : Prop where
  le : p.line ≤ line
  lt : p.token = .lineEnd → p.line < line

/-- Each token may precede those behind it. -/
def InOrder (tokens : List Placed) : Prop := tokens.Pairwise fun p q => p.MayPrecede q.line

namespace Scanner

variable {s next : Scanner} {token : Token} {width : Nat}

/-- The tokens found are in order, and may precede what comes on the scanner's line. -/
structure IsInOrder (s : Scanner) : Prop where
  found : s.found.Pairwise fun q p => p.MayPrecede q.line
  passed : ∀ p ∈ s.found, p.MayPrecede s.line

/-- Going on without finding anything keeps the order. -/
theorem IsInOrder.congr (h : s.IsInOrder) (hfound : next.found = s.found)
    (hline : s.line ≤ next.line) : next.IsInOrder := by
  refine ⟨hfound ▸ h.found, fun p hp => ?_⟩
  have hpassed := h.passed p (hfound ▸ hp)
  exact ⟨Nat.le_trans hpassed.le hline, fun hend => Nat.lt_of_lt_of_le (hpassed.lt hend) hline⟩

/-- A token that ends no line may stand on the line of the last one. -/
theorem IsInOrder.emit (h : s.IsInOrder) (htoken : token ≠ .lineEnd) : (s.emit token).IsInOrder where
  found := List.pairwise_cons.mpr ⟨h.passed, h.found⟩
  passed := by
    refine List.forall_mem_cons.mpr ⟨⟨Nat.le_refl _, fun hend => ?_⟩, h.passed⟩
    exact absurd hend htoken

/-- The tokens that open and close blocks end no line. -/
theorem ne_lineEnd_of_settle {margin : Margin} {blocks left : List Margin} {tokens : List Token}
    (h : settle margin blocks = some (tokens, left)) : ∀ t ∈ tokens, t ≠ .lineEnd := by
  unfold settle at h
  dsimp only at h
  split at h
  · split at h
    · cases h
      simp
    · cases h
  · split at h
    · cases h
      intro t ht
      rw [List.eq_of_mem_replicate ht]
      exact Token.noConfusion
    · cases h

/-- Several such tokens, as at the beginning of a line that is less indented than the last one. -/
theorem IsInOrder.foldl_emit {tokens : List Token} (htokens : ∀ t ∈ tokens, t ≠ .lineEnd)
    (h : s.IsInOrder) : (tokens.foldl Scanner.emit s).IsInOrder := by
  induction tokens generalizing s with
  | nil => exact h
  | cons t tokens ih =>
    rw [List.forall_mem_cons] at htokens
    exact ih htokens.2 (h.emit htokens.1)

/-- The margin of a line: the blocks that it opens or closes are tokens on that line. -/
theorem IsInOrder.enterLine (h : s.IsInOrder) {text : Text}
    (hstep : s.enterLine text = some (next, width)) : next.IsInOrder := by
  unfold Scanner.enterLine at hstep
  obtain ⟨⟨margin, read⟩, -, hstep⟩ := Option.bind_eq_some_iff.mp hstep
  dsimp only at hstep
  split at hstep
  · cases hstep
    exact h.congr rfl (Nat.le_refl _)
  · split at hstep
    · cases hstep
      exact h.congr rfl (Nat.le_refl _)
    · obtain ⟨⟨tokens, blocks⟩, hsettle, hstep⟩ := Option.bind_eq_some_iff.mp hstep
      cases hstep
      refine IsInOrder.foldl_emit (ne_lineEnd_of_settle hsettle) ?_
      exact h.congr rfl (Nat.le_refl _)

/-- The end of a logical line is on the line that is left. -/
theorem IsInOrder.lineEnd (h : s.IsInOrder) {text : Text}
    (hstep : s.lineEnd text = some (next, width)) : next.IsInOrder := by
  have hleft : ({ s with line := s.line + 1 } : Scanner).IsInOrder := h.congr rfl (Nat.le_succ _)
  unfold Scanner.lineEnd at hstep
  refine IsInOrder.enterLine ?_ hstep
  split
  · exact hleft
  · refine ⟨List.pairwise_cons.mpr ⟨h.passed, h.found⟩, ?_⟩
    exact List.forall_mem_cons.mpr ⟨⟨Nat.le_succ _, fun _ => Nat.lt_succ_self _⟩, hleft.passed⟩

theorem ne_lineEnd_of_literalToken {found : Literal.Found} (h : literalToken found = some token) :
    token ≠ .lineEnd := by
  unfold literalToken at h
  split at h
  · split at h
    · cases h
      exact Token.noConfusion
    · cases h
  · split at h
    · obtain ⟨embedded, -, rfl⟩ := Option.map_eq_some_iff.mp h
      exact Token.noConfusion
    · obtain ⟨value, -, rfl⟩ := Option.map_eq_some_iff.mp h
      exact Token.noConfusion

/-- A word does not end a line, whether it is a keyword or a name. -/
theorem ofWord_ne_lineEnd (id : Name) (written : Text) : Token.ofWord id written ≠ .lineEnd := by
  unfold Token.ofWord
  split
  · exact Token.noConfusion
  · exact Token.noConfusion

theorem IsInOrder.word (h : s.IsInOrder) {c : Char} {rest : Text}
    (hstep : s.word c rest = some (next, width)) : next.IsInOrder := by
  unfold Scanner.word at hstep
  dsimp only at hstep
  split at hstep
  · cases hstep
    exact h.emit (ofWord_ne_lineEnd _ _)
  · cases hstep

theorem IsInOrder.numeral (h : s.IsInOrder) {rest : Text} {reading : Numeral.Reading}
    (hstep : s.numeral rest reading = some (next, width)) : next.IsInOrder := by
  cases reading with
  | none => cases hstep
  | some found =>
    cases hstep
    exact h.emit Token.noConfusion

/-- A sign is one token, and brackets are counted besides. -/
theorem IsInOrder.sign (h : s.IsInOrder) {c : Char} {rest : Text}
    (hstep : s.sign c rest = some (next, width)) : next.IsInOrder := by
  obtain ⟨mark, -, hstep⟩ := Option.bind_eq_some_iff.mp hstep
  have hmark : (s.emit (.mark mark)).IsInOrder := h.emit Token.noConfusion
  split at hstep
  · split at hstep
    · cases hstep
    · cases hstep
      exact hmark.congr rfl (Nat.le_refl _)
  · split at hstep
    · split at hstep
      · cases hstep
      · split at hstep
        · cases hstep
          exact hmark.congr rfl (Nat.le_refl _)
        · cases hstep
    · cases hstep
      exact hmark

/-- What a step adds is on the line that the scanner has come to. -/
theorem IsInOrder.step (h : s.IsInOrder) {c : Char} {rest : Text}
    (hstep : s.step c rest = some (next, width)) : next.IsInOrder := by
  unfold Scanner.step at hstep
  split at hstep
  · -- The end of a line, of which only the logical one is kept.
    exact h.lineEnd hstep
  split at hstep
  · cases hstep
    exact h
  split at hstep
  · cases hstep
    exact h
  split at hstep
  · split at hstep
    · cases hstep
      exact h
    · cases hstep
  split at hstep
  · -- A literal of any kind.
    obtain ⟨found, -, hstep⟩ := Option.bind_eq_some_iff.mp hstep
    obtain ⟨t, ht, hstep⟩ := Option.bind_eq_some_iff.mp hstep
    cases hstep
    exact h.emit (ne_lineEnd_of_literalToken ht)
  split at hstep
  · exact h.numeral hstep
  split at hstep
  · exact h.numeral hstep
  split at hstep
  · exact h.word hstep
  · exact h.sign hstep

/-- Characters that are passed may hold ends of lines, within a literal, say. -/
theorem IsInOrder.passing (h : s.IsInOrder) (taken : Text) : (s.passing taken).IsInOrder :=
  h.congr rfl (Nat.le_add_right _ _)

/-- **The run over a text.** The induction is on its steps, one of which comes after the other. -/
theorem IsInOrder.run {text : Text} (h : s.IsInOrder) (hrun : s.run text = some next) :
    next.IsInOrder := by
  induction s, text using Scanner.run.induct with
  | case1 s hclosed =>
    rw [Scanner.run, if_pos hclosed] at hrun
    cases hrun
    exact h
  | case2 s hopen =>
    rw [Scanner.run, if_neg hopen] at hrun
    cases hrun
  | case3 s c rest hstep =>
    simp only [Scanner.run, hstep] at hrun
    cases hrun
  | case4 s c rest reached width hstep ih =>
    simp only [Scanner.run, hstep] at hrun
    exact ih ((h.step hstep).passing _) hrun

end Scanner

/-- The tokens of a script stand in the order of their lines, and no token is on the line of the end
of a logical line before it. -/
theorem inOrder_of_tokens? {source : Text} {tokens : List Placed}
    (h : tokens? source = some tokens) : InOrder tokens := by
  obtain ⟨⟨entered, width⟩, henter, h⟩ := Option.bind_eq_some_iff.mp h
  obtain ⟨scanned, hrun, h⟩ := Option.bind_eq_some_iff.mp h
  cases h
  have hstart : ({} : Scanner).IsInOrder := ⟨List.Pairwise.nil, fun _ hp => nomatch hp⟩
  have hscanned : scanned.IsInOrder := ((hstart.enterLine henter).passing _).run hrun
  exact List.pairwise_reverse.mpr hscanned.found

end RouteAtlas.Script
