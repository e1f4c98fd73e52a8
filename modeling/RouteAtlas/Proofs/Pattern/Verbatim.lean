import Mathlib.Data.List.Forall2
import RouteAtlas.Pattern.Reader
import RouteAtlas.Pattern.Search
import RouteAtlas.Proofs.Except
import RouteAtlas.Proofs.Text.Case

/-!
# Patterns without signs

A text without any of the signs that mean something in a pattern (`isSign`) is a pattern that spells
itself: it is read as the sequence of its characters, one by one (`read_of_verbatim`), and found
wherever a text has characters that match them one by one and without a gap
(`foundIn_verbatim_iff`).

The reader looks one character ahead, which matters for a backslash only: a backslash at the end of
a pattern is refused as soon as it comes next. So the equations for the steps of the reader ask that
what is left does not consist of one, and of a text without signs that is known.

The matcher is a search with a continuation, but along a sequence of characters there is nothing to
come back to. What it finds is therefore an induction on the sequence, and where it finds it one on
the text. Which characters match is a question for each of them alone. For characters of ASCII it is
whether they are the same in lower case, though some of them have other variants beyond ASCII.
-/

namespace RouteAtlas.Pattern

/-- The signs that mean something in a pattern. A closing bracket or brace does not by itself. -/
def signs : List Char := ['\\', '|', '(', ')', '[', '*', '+', '?', '\x7b', '.', '^', '$']

/-- The nodes that match the characters of a text, one by one. -/
def verbatim (s : Text) : List Node := s.map fun c => .code c.toNat

/-! ## Reading -/

section Reading

open Reading

variable {α β : Type} {r r' : Reader} {c : Char} {s rest : Text}

/-- A step that succeeds is followed by the next one. -/
theorem run_bind_of_ok {x : Reading α} {a : α} (h : x.run r = .ok (a, r'))
    (f : α → Reading β) : (x >>= f).run r = (f a).run r' := by
  rw [StateT.run_bind, h]
  rfl

theorem run_peek_nil (h : r.rest = []) : peek.run r = .ok (none, r) := by
  simp only [peek, StateT.run_bind, StateT.run_get, pure_bind, h]
  rfl

/-- Otherwise a character comes next, and it is a plain one if it is no backslash. -/
theorem run_peek_cons (h : r.rest = c :: rest) (hc : c ≠ '\\') :
    peek.run r = .ok (some (.plain c), r) := by
  simp only [peek, StateT.run_bind, StateT.run_get, pure_bind, h]
  split
  next heq => exact absurd heq (List.cons_ne_nil c rest)
  next heq => exact absurd (List.cons.inj heq).1 hc
  next heq =>
    obtain ⟨rfl, -⟩ := List.cons.inj heq
    rfl

/-- The reader may go on to anything but a single backslash. -/
theorem run_moveTo {place : Nat} (h : rest ≠ ['\\']) :
    (moveTo rest place).run r = .ok ((), { r with rest, place }) := by
  rw [moveTo, if_neg h]
  rfl

theorem run_take_cons (h : r.rest = c :: rest) (hc : c ≠ '\\') (hrest : rest ≠ ['\\']) :
    take.run r = .ok (some (.plain c), { r with rest, place := r.place + 1 }) := by
  have hdrop : r.rest.drop (Token.plain c).text.length = rest := by rw [h]; rfl
  rw [take, run_bind_of_ok (run_peek_cons h hc), run_bind_of_ok rfl]
  simp only [hdrop]
  rw [run_bind_of_ok (run_moveTo hrest)]
  rfl

theorem run_accept_nil (h : r.rest = []) : (accept c).run r = .ok (false, r) := by
  rw [accept, run_bind_of_ok (run_peek_nil h), if_neg (by simp)]
  rfl

/-- One character that is no sign is read as itself. -/
theorem run_readSequence_cons {atStart : Bool} {nodes : List Node} {fuel : Nat}
    (h : r.rest = c :: rest) (hc : c ∉ signs) (hrest : rest ≠ ['\\']) :
    (readSequence atStart false nodes (fuel + 1)).run r =
      (readSequence atStart false (.code c.toNat :: nodes) fuel).run
        { r with rest, place := r.place + 1 } := by
  have hbackslash : c ≠ '\\' := by
    rintro rfl
    exact hc (by decide)
  have hends : ¬(c = '|' ∨ c = ')') := by
    rintro (rfl | rfl)
    · exact hc (by decide)
    · exact hc (by decide)
  rw [readSequence, run_bind_of_ok (run_peek_cons h hbackslash)]
  simp only [if_neg hends]
  rw [run_bind_of_ok rfl, run_bind_of_ok (run_take_cons h hbackslash hrest)]
  simp only [Bool.false_and, Bool.false_eq_true, if_false]
  split
  case h_10 => rfl
  -- the other cases are those of a sign
  all_goals exact absurd (by decide) hc

/-- A text without signs is not a single backslash, and neither is its rest. -/
theorem ne_backslash (h : ∀ c ∈ s, c ∉ signs) : s ≠ ['\\'] := by
  rintro rfl
  exact h '\\' List.mem_cons_self (by decide)

/-- A text without signs is read to its end, character by character. -/
theorem run_readSequence {atStart : Bool} {nodes : List Node} {fuel : Nat} (hrest : r.rest = s)
    (h : ∀ c ∈ s, c ∉ signs) (hfuel : s.length < fuel) :
    (readSequence atStart false nodes fuel).run r =
      .ok (Node.flatten (nodes.reverse ++ verbatim s),
        { r with rest := [], place := r.place + s.length }) := by
  induction s generalizing nodes fuel r with
  | nil =>
    obtain ⟨fuel, rfl⟩ := Nat.exists_eq_succ_of_ne_zero (Nat.ne_zero_of_lt hfuel)
    have hsame : { r with rest := [], place := r.place + ([] : Text).length } = r := by
      rw [List.length_nil, Nat.add_zero, ← hrest]
    rw [readSequence, run_bind_of_ok (run_peek_nil hrest), hsame, verbatim, List.map_nil,
      List.append_nil]
    rfl
  | cons c s ih =>
    obtain ⟨fuel, rfl⟩ := Nat.exists_eq_succ_of_ne_zero (Nat.ne_zero_of_lt hfuel)
    obtain ⟨hc, hs⟩ := List.forall_mem_cons.mp h
    rw [run_readSequence_cons hrest hc (ne_backslash hs),
      ih rfl hs (Nat.lt_of_succ_lt_succ hfuel), List.reverse_cons, List.append_assoc,
      Nat.add_assoc, Nat.add_comm 1]
    rfl

theorem flatten_verbatim (s : Text) : Node.flatten (verbatim s) = verbatim s := by
  induction s with
  | nil => rfl
  | cons c s ih =>
    have hcons : Node.flatten (verbatim (c :: s)) = .code c.toNat :: Node.flatten (verbatim s) :=
      rfl
    rw [hcons, ih]
    rfl

theorem unusableIn?_verbatim (template : Bool) (s : Text) :
    Node.unusableIn? template (verbatim s) = none := by
  induction s with
  | nil => rfl
  | cons c s ih =>
    have hcons : Node.unusableIn? template (verbatim (c :: s)) =
        (Node.unusable? template (.code c.toNat)).or (Node.unusableIn? template (verbatim s)) := rfl
    rw [hcons, ih]
    rfl

/-- There is one alternative, and all of the text is in it. -/
theorem run_readSequences {fuel : Nat} (hrest : r.rest = s) (h : ∀ c ∈ s, c ∉ signs)
    (hfuel : s.length < fuel) :
    (readSequences true true false (fuel + 1)).run r =
      .ok ([verbatim s], { r with rest := [], place := r.place + s.length }) := by
  rw [readSequences, run_bind_of_ok (run_readSequence hrest h hfuel),
    run_bind_of_ok (run_accept_nil rfl), List.reverse_nil, List.nil_append, flatten_verbatim]
  rfl

/-- **The reader takes the whole text** and asks for no other modes. -/
theorem run_readAll {fuel : Nat} (hrest : r.rest = s) (hmodes : r.modes = [.ignoreCase])
    (hasked : r.asked = []) (h : ∀ c ∈ s, c ∉ signs) (hfuel : s.length < fuel) :
    (readAll (fuel + 1)).run r =
      .ok (verbatim s, { r with rest := [], place := r.place + s.length }) := by
  have hverbose : r.modes.contains .verbose = false := by rw [hmodes]; rfl
  have hclasses : (r.modes.contains .ascii && r.modes.contains .unicode) = false := by
    rw [hmodes]
    rfl
  rw [readAll, run_bind_of_ok rfl, run_bind_of_ok (run_moveTo (hrest ▸ ne_backslash h)), hverbose,
    run_bind_of_ok (run_readSequences hrest h hfuel), run_bind_of_ok rfl]
  simp only [hclasses, Bool.false_eq_true, if_false]
  rw [run_bind_of_ok (run_peek_nil rfl)]
  simp only [Option.isSome_none, Bool.false_eq_true, if_false]
  rw [run_bind_of_ok rfl, run_bind_of_ok rfl]
  simp only [hasked, List.find?_nil]
  rfl

/-- **A text without signs spells itself.** -/
theorem read_of_verbatim (h : ∀ c ∈ s, c ∉ signs) :
    Pattern.read s = .ok ⟨[.ignoreCase], verbatim s⟩ := by
  have hfuel : s.length < 6 * s.length + 11 := by omega
  have hread := run_readAll (r := { rest := s, place := 0, modes := [.ignoreCase] }) rfl rfl rfl h
    hfuel
  have husable := unusableIn?_verbatim ([Mode.ignoreCase].contains .template) s
  rw [Pattern.read]
  refine Except.bind_eq_ok.mpr ⟨_, hread, ?_⟩
  dsimp only
  rw [husable]

end Reading

/-! ## Matching -/

section Matching

variable {modes : Modes} {s after : Text}

/-- A character of the text is matched by one that the pattern gives. -/
def Matches (modes : Modes) (a c : Char) : Prop := matchesCode (.of modes) a.toNat c = true

/-- The characters of a pattern match a text's from a place on. -/
theorem isSome_runAll_verbatim {p : Progress} :
    (runAll modes (verbatim s) p some).isSome = true ↔
      ∃ front rest, p.spot.after = front ++ rest ∧ List.Forall₂ (Matches modes) s front := by
  induction s generalizing p with
  | nil => exact iff_of_true rfl ⟨[], p.spot.after, rfl, .nil⟩
  | cons a s ih =>
    have hcons : runAll modes (verbatim (a :: s)) p some =
        takeOne modes (.code a.toNat) p fun q => runAll modes (verbatim s) q some := rfl
    rw [hcons, takeOne]
    cases hafter : p.spot.after with
    | nil =>
      refine iff_of_false (by simp) ?_
      rintro ⟨front, rest, hnil, hmatch⟩
      obtain ⟨rfl, -⟩ := List.append_eq_nil_iff.mp hnil.symm
      cases hmatch
    | cons c after =>
      have hforth : (p.spot.forth 1).after = after := by
        obtain ⟨⟨before, _⟩, captures⟩ := p
        obtain rfl : _ = c :: after := hafter
        rfl
      have htakes : (Node.takes? modes c (.code a.toNat)).getD false = true ↔ Matches modes a c :=
        Iff.rfl
      dsimp only
      -- The first character matches or it does not; the continuation is asked only if it does.
      by_cases hfirst : Matches modes a c
      · rw [if_pos (htakes.mpr hfirst), ih]
        constructor
        · rintro ⟨front, rest, hsplit, hfront⟩
          rw [← hforth, hsplit]
          exact ⟨c :: front, rest, rfl, .cons hfirst hfront⟩
        · rintro ⟨_, rest, hsplit, hmatch⟩
          obtain ⟨_, front, -, hfront, rfl⟩ := List.forall₂_cons_left_iff.mp hmatch
          exact ⟨front, rest, hforth.trans (List.cons.inj hsplit).2, hfront⟩
      · rw [if_neg (mt htakes.mp hfirst)]
        refine iff_of_false (by simp) ?_
        rintro ⟨_, rest, hsplit, hmatch⟩
        obtain ⟨_, front, hhead, -, rfl⟩ := List.forall₂_cons_left_iff.mp hmatch
        rw [← (List.cons.inj hsplit).1] at hhead
        exact hfirst hhead

/-- The characters of a pattern match a text's somewhere from a place on. -/
theorem foundFrom_verbatim_iff {before : Text} :
    foundFrom ⟨modes, verbatim s⟩ before after = true ↔
      ∃ skipped found rest, after = skipped ++ found ++ rest ∧
        List.Forall₂ (Matches modes) s found := by
  -- At one place the characters have to match from there on.
  have hhere : ∀ before after, matchesAt ⟨modes, verbatim s⟩ ⟨before, after⟩ = true ↔
      ∃ front rest, after = front ++ rest ∧ List.Forall₂ (Matches modes) s front :=
    fun before after => isSome_runAll_verbatim (p := ⟨⟨before, after⟩, []⟩)
  induction after generalizing before with
  | nil =>
    rw [foundFrom, hhere]
    constructor
    · rintro ⟨found, rest, hsplit, hmatch⟩
      exact ⟨[], found, rest, hsplit, hmatch⟩
    · rintro ⟨skipped, found, rest, hsplit, hmatch⟩
      obtain ⟨hfront, rfl⟩ := List.append_eq_nil_iff.mp hsplit.symm
      obtain ⟨rfl, rfl⟩ := List.append_eq_nil_iff.mp hfront
      exact ⟨[], [], rfl, hmatch⟩
  | cons c after ih =>
    rw [foundFrom, Bool.or_eq_true, hhere, or_congr_right ih]
    constructor
    · rintro (⟨found, rest, hsplit, hmatch⟩ | ⟨skipped, found, rest, hsplit, hmatch⟩)
      · exact ⟨[], found, rest, hsplit, hmatch⟩
      · exact ⟨c :: skipped, found, rest, congrArg (List.cons c) hsplit, hmatch⟩
    · rintro ⟨skipped, found, rest, hsplit, hmatch⟩
      cases skipped with
      | nil => exact Or.inl ⟨found, rest, hsplit, hmatch⟩
      | cons d skipped =>
        exact Or.inr ⟨skipped, found, rest, (List.cons.inj hsplit).2, hmatch⟩

end Matching

/-! ## Case -/

/-- The number of a character names it. -/
theorem charOf?_toNat (c : Char) : charOf? c.toNat = some c := by
  have hvalid : c.toNat.isValidChar := c.valid
  have hsame := Char.ofNat_toNat c
  rw [Char.ofNat, dif_pos hvalid] at hsame
  rw [charOf?, dif_pos hvalid, hsame]

/-- Two characters of ASCII match if they are the same in lower case. -/
theorem matches_iff_of_ascii {a c : Char} (ha : a.toNat < 128) (hc : c.toNat < 128) :
    Matches [.ignoreCase] a c ↔ Text.lowerChar a = Text.lowerChar c := by
  have hcode : matchesCode (.of [.ignoreCase]) a.toNat c =
      if Text.isCased a then (Text.lowerVariants (Text.lowerChar a)).contains (Text.lowerChar c)
      else a == c := by
    rw [matchesCode, charOf?_toNat]
    rfl
  rw [Matches, hcode]
  -- Only characters with case have variants.
  by_cases hcased : Text.isCased a = true
  · rw [if_pos hcased, List.contains_iff_mem]
    constructor
    · intro hmem
      exact (Text.eq_lowerChar_of_mem_lowerVariants ha hmem (Text.toNat_lowerChar_lt hc)).symm
    · intro hsame
      rw [← hsame]
      exact Text.mem_lowerVariants_self _
  · have hself : Text.lowerChar a = a := Text.lowerChar_of_not_isCased (by simpa using hcased)
    rw [if_neg hcased, beq_iff_eq, hself]
    constructor
    · rintro rfl
      exact hself.symm
    · -- a capital cannot have a small letter without case
      intro hsame
      by_contra hne
      have hcapital : Text.lowerChar c ≠ c := fun h => hne (hsame.trans h)
      rw [hsame] at hcased
      exact hcased (Text.isCased_lowerChar hc hcapital)

/-- A text of ASCII is matched character by character by one that is the same in lower case. -/
theorem forall₂_matches_iff {s found : Text} (hs : s.IsAscii) (hfound : found.IsAscii) :
    List.Forall₂ (Matches [.ignoreCase]) s found ↔
      s.map Text.lowerChar = found.map Text.lowerChar := by
  induction s generalizing found with
  | nil =>
    rw [List.forall₂_nil_left_iff, List.map_nil, eq_comm (a := []), List.map_eq_nil_iff]
  | cons a s ih =>
    obtain ⟨ha, hs⟩ := List.forall_mem_cons.mp hs
    cases found with
    | nil => exact iff_of_false (fun h => by cases h) (List.cons_ne_nil _ _)
    | cons c found =>
      obtain ⟨hc, hfound⟩ := List.forall_mem_cons.mp hfound
      rw [List.forall₂_cons, matches_iff_of_ascii ha hc, ih hs hfound, List.map_cons, List.map_cons,
        List.cons.injEq]

/-- **A pattern without signs is found in a text, both of ASCII, exactly if it is a part of it in
lower case.** -/
theorem foundIn_verbatim_iff {s text : Text} (hs : s.IsAscii) (htext : text.IsAscii) :
    foundIn ⟨[.ignoreCase], verbatim s⟩ text = true ↔ Text.lower s <:+: Text.lower text := by
  rw [foundIn, foundFrom_verbatim_iff, Text.lower_eq_map_of_ascii hs,
    Text.lower_eq_map_of_ascii htext]
  constructor
  · rintro ⟨skipped, found, rest, rfl, hmatch⟩
    have hfound : Text.IsAscii found := by
      intro c hc
      exact htext c (List.mem_append_left rest (List.mem_append_right skipped hc))
    rw [(forall₂_matches_iff hs hfound).mp hmatch]
    exact ⟨skipped.map Text.lowerChar, rest.map Text.lowerChar, by simp only [List.map_append]⟩
  · rintro ⟨skipped', rest', hsplit⟩
    -- the parts of the text in lower case are parts of the text
    obtain ⟨front, rest, rfl, hfront, -⟩ := List.map_eq_append_iff.mp hsplit.symm
    obtain ⟨skipped, found, rfl, -, hsame⟩ := List.map_eq_append_iff.mp hfront
    have hfound : Text.IsAscii found := by
      intro c hc
      exact htext c (List.mem_append_left rest (List.mem_append_right skipped hc))
    exact ⟨skipped, found, rest, rfl, (forall₂_matches_iff hs hfound).mpr hsame.symm⟩

end RouteAtlas.Pattern
