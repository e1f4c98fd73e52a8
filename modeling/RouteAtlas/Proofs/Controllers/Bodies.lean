import Mathlib.Data.List.Chain
import RouteAtlas.Proofs.Controllers.Zone

/-!
# Open bodies

Whatever the text is, and however its braces match, the bodies that are open lie one inside of the
other: their depths fall strictly from the innermost one outwards, from the depth of the scan at
most down to 1 at least (`ScanState.IsNested`). That holds at all points of a scan: in front of each
line, behind its declarations, and behind each character of its code (`points`).

The depth itself is what counting the braces of the code gives if it is held at zero (`bracesFrom`).

What can happen from one point to the next is said once (`ScanState.Step`), and all else follows
from it. A step keeps the bodies that are not deeper than the depth behind it, and opens one at most
(`IsNested.exists_opened`). So a body is open at a later point if the depth has not fallen below its
own since, however many braces have been closed, and only then. For the latter no body may be opened
twice, which the places of classes see to: the next body to be opened has a place behind those of
all bodies before (`ScanState.IsPlaced`).

Methods go to the class of the innermost body, and only where its depth is the depth of the scan, so
that there is no other open body of this depth (`open_bodies_are_nested`).

The points of a scan are a chain of steps (`isChain_pointsFrom`). Facts about two neighbours hold of
any two points of a chain, and facts about a state that a step preserves hold of all of them since
they hold of the first state. So the statements about whole scans need no induction of their own.
-/

namespace RouteAtlas.Controllers

/-- The number of open braces behind a character of the code; a brace too many counts nothing. -/
def countBrace (depth : ℤ) (c : Char) : ℤ :=
  if c = '{' then depth + 1 else if c = '}' then max (depth - 1) 0 else depth

/-- The numbers of open braces at the points of a scan, read off the code of each line. -/
def bracesFrom : (depth : ℤ) → (inComment : Bool) → List Text → List ℤ
  | depth, _, [] => [depth]
  | depth, inComment, text :: lines =>
    let (code, inComment) := bareCode text inComment
    depth :: (code.scanl countBrace depth ++
      bracesFrom (code.foldl countBrace depth) inComment lines)

namespace ScanState

/-! ## Points of a scan -/

/-- The points of a line: behind its declarations, and behind each character of its code. -/
def linePoints (file : Path) (s : ScanState) (line : Nat) (text : Text) : List ScanState :=
  let (visible, inComment) := withoutComments text s.inComment
  let (code, inCodeComment) := bareCode text s.inCodeComment
  let s := { s with inComment, inCodeComment }
  code.scanl brace (s.declarations file line visible)

/-- The points of a scan that goes on from a state: in front of each line, those of the line, and
behind all lines. -/
def pointsFrom (file : Path) : ScanState → Nat → List Text → List ScanState
  | s, _, [] => [s]
  | s, line, text :: lines =>
    s :: (s.linePoints file line text ++ pointsFrom file (s.addLine file line text) (line + 1) lines)

variable {s s' : ScanState}

theorem getLast?_linePoints (file : Path) (s : ScanState) (line : Nat) (text : Text) :
    (s.linePoints file line text).getLast? = some (s.addLine file line text) :=
  List.getLast?_scanl

theorem head?_pointsFrom (file : Path) (s : ScanState) (line : Nat) (lines : List Text) :
    (pointsFrom file s line lines).head? = some s := by
  cases lines <;> rfl

theorem getLast?_pointsFrom (file : Path) (s : ScanState) (line : Nat) (lines : List Text) :
    (pointsFrom file s line lines).getLast? = some (s.after file line lines) := by
  induction lines generalizing s line with
  | nil => rfl
  | cons text lines ih =>
    rw [pointsFrom, List.getLast?_cons, List.getLast?_append, ih, after_cons]
    rfl

/-! ## Steps -/

/-- What a scan does from one point to the next, as far as classes and bodies are concerned. -/
inductive Step (s s' : ScanState) : Prop
  /-- Nothing. -/
  | stays (hdepth : s'.depth = s.depth) (hbodies : s'.bodies = s.bodies)
      (hclasses : s'.classes = s.classes) (hawaited : s'.awaited = s.awaited)
  /-- A class is declared, which waits for its body. -/
  | declares (c : ClassDecl) (hnew : c.methods = []) (hdepth : s'.depth = s.depth)
      (hbodies : s'.bodies = s.bodies) (hclasses : s'.classes = s.classes ++ [c])
      (hawaited : s'.awaited = some s.classes.length)
  /-- A method goes to the class of the innermost body, which is open at the depth of the scan. -/
  | attaches (body : OpenBody) (outer : List OpenBody) (method : Action)
      (hinnermost : s.bodies = body :: outer) (hopen : body.depth = s.depth)
      (hdepth : s'.depth = s.depth) (hbodies : s'.bodies = s.bodies)
      (hclasses : s'.classes = s.classes.modify body.place (·.withMethod method))
      (hawaited : s'.awaited = s.awaited)
  /-- A brace opens the body of the class that waits for one, if any does. -/
  | opens (hdepth : s'.depth = s.depth + 1)
      (hbodies : s'.bodies = s.awaited.toList.map (⟨·, s.depth + 1⟩) ++ s.bodies)
      (hclasses : s'.classes = s.classes) (hawaited : s'.awaited = none)
  /-- A brace closes the innermost body if that is open at the depth of the scan. -/
  | closes (hdepth : s'.depth = s.depth - 1) (hbodies : s'.bodies = (s.brace '}').bodies)
      (hclasses : s'.classes = s.classes) (hawaited : s'.awaited = s.awaited)

theorem step_refl (s : ScanState) : Step s s := .stays rfl rfl rfl rfl

/-- **A character of the code** opens or closes a body, or changes nothing. -/
theorem step_brace (s : ScanState) (c : Char) : Step s (s.brace c) := by
  by_cases hopen : c = '{'
  · subst hopen
    exact .opens rfl rfl rfl rfl
  · by_cases hclose : c = '}'
    · subst hclose
      exact .closes rfl rfl rfl rfl
    · rw [brace, if_neg hopen, if_neg hclose]
      exact step_refl s

/-- Attributes wait for what they belong to, and change nothing else. -/
theorem addAttributes_eq (s : ScanState) (line : Nat) (attributes : List Attribute) :
    ∃ waiting, s.addAttributes line attributes = { s with waiting } := by
  unfold addAttributes
  split
  · exact ⟨s.waiting, rfl⟩
  · split
    · exact ⟨_, rfl⟩
    · exact ⟨_, rfl⟩

/-- The code of a line declares one thing at most. Attributes and comments do not count here. -/
theorem step_addCode (s : ScanState) (waiting : Option Waiting) (inComment inCodeComment : Bool)
    (file : Path) (line : Nat) (code : Text) :
    Step s ({ s with waiting, inComment, inCodeComment }.addCode file line code) := by
  unfold addCode
  split
  · exact .stays rfl rfl rfl rfl
  · split
    next head _ => exact .declares _ rfl rfl rfl rfl rfl
    next =>
      split
      next head _ =>
        unfold addMethod
        split
        next body outer hbodies =>
          split
          next hdepth => exact .attaches body outer _ hbodies hdepth.symm rfl rfl rfl rfl
          next => exact .stays rfl rfl rfl rfl
        next => exact .stays rfl rfl rfl rfl
      next => exact .stays rfl rfl rfl rfl

/-- **The declarations of a line** add a class or a method at most. -/
theorem step_declarations (s : ScanState) (inComment inCodeComment : Bool) (file : Path)
    (line : Nat) (text : Text) :
    Step s ({ s with inComment, inCodeComment }.declarations file line text) := by
  unfold declarations
  split
  · exact .stays rfl rfl rfl rfl
  · obtain ⟨waiting, hwaiting⟩ := addAttributes_eq { s with inComment, inCodeComment } line
      (splitAttributes text).1
    dsimp only
    rw [hwaiting]
    exact step_addCode s waiting inComment inCodeComment file line _

/-- The characters of the code are taken one after the other. -/
theorem isChain_scanl_brace (s : ScanState) (code : Text) : (code.scanl brace s).IsChain Step := by
  induction code generalizing s with
  | nil =>
    rw [List.scanl_nil]
    exact List.isChain_singleton s
  | cons c code ih =>
    rw [List.scanl_cons, List.isChain_cons, List.head?_scanl]
    refine ⟨?_, ih (s.brace c)⟩
    intro next hnext
    rw [← Option.some.inj hnext]
    exact step_brace s c

/-- **Each point of a scan is a step behind the one before.** -/
theorem isChain_pointsFrom (file : Path) (s : ScanState) (line : Nat) (lines : List Text) :
    (pointsFrom file s line lines).IsChain Step := by
  induction lines generalizing s line with
  | nil => exact List.isChain_singleton s
  | cons text lines ih =>
    rw [pointsFrom, List.isChain_cons, List.isChain_append]
    refine ⟨?_, isChain_scanl_brace _ _, ih _ _, ?_⟩
    · intro next hnext
      rw [linePoints, List.head?_append, List.head?_scanl] at hnext
      rw [← Option.some.inj hnext]
      exact step_declarations s _ _ file line _
    · -- behind the last character of a line is in front of the next line
      intro last hlast next hnext
      rw [getLast?_linePoints] at hlast
      rw [head?_pointsFrom] at hnext
      rw [← Option.some.inj hlast, ← Option.some.inj hnext]
      exact step_refl _

/-! ## Nested bodies -/

/-- The bodies that are open lie one inside of the other, none of them deeper than the depth of the
scan. -/
structure IsNested (s : ScanState) : Prop where
  descend : s.bodies.Pairwise fun inner outer => outer.depth < inner.depth
  pos : ∀ body ∈ s.bodies, 1 ≤ body.depth
  le_depth : ∀ body ∈ s.bodies, body.depth ≤ s.depth

/-- A closing brace drops what is deeper than the depth behind it. -/
theorem IsNested.bodies_close (h : s.IsNested) :
    (s.brace '}').bodies = s.bodies.filter (·.depth ≤ s.depth - 1) := by
  rw [brace, if_neg (by decide), if_pos rfl]
  dsimp only
  cases hbodies : s.bodies with
  | nil => rfl
  | cons body outer =>
    have hdescend := h.descend
    have hpos := h.pos
    have hle := h.le_depth
    rw [hbodies] at hdescend hpos hle
    have hbody := hpos body List.mem_cons_self
    have hbody' := hle body List.mem_cons_self
    -- the innermost body is the only one that can be at the depth of the scan
    have houter : outer.filter (·.depth ≤ s.depth - 1) = outer := by
      rw [List.filter_eq_self]
      intro other hother
      have hless := (List.pairwise_cons.mp hdescend).1 other hother
      exact decide_eq_true (by omega)
    show (if body.depth = s.depth then outer else body :: outer) = _
    split
    next heq =>
      rw [List.filter_cons_of_neg (by simp only [decide_eq_true_eq]; omega), houter]
    next hne =>
      rw [List.filter_cons_of_pos (by simp only [decide_eq_true_eq]; omega), houter]

/-- **What a step does to the bodies.** It keeps those that are not deeper than the depth behind it,
and may open one at just this depth, that of the class that has waited for it. -/
theorem IsNested.exists_opened (h : s.IsNested) (hstep : Step s s') :
    ∃ opened : Option OpenBody,
      s'.bodies = opened.toList ++ s.bodies.filter (·.depth ≤ s'.depth) ∧
      ∀ body ∈ opened, s.awaited = some body.place ∧ s'.awaited = none ∧
        body.depth = s'.depth ∧ s.depth < s'.depth := by
  -- No body is deeper than the scan was.
  have hkept (hdepth : s.depth ≤ s'.depth) : s.bodies.filter (·.depth ≤ s'.depth) = s.bodies := by
    rw [List.filter_eq_self]
    intro body hbody
    exact decide_eq_true ((h.le_depth body hbody).trans hdepth)
  cases hstep with
  | stays hdepth hbodies | declares _ _ hdepth hbodies | attaches _ _ _ _ _ hdepth hbodies =>
    refine ⟨none, ?_, by simp⟩
    rw [hkept hdepth.ge, hbodies]
    rfl
  | opens hdepth hbodies hclasses hawaited =>
    refine ⟨s.awaited.map (⟨·, s.depth + 1⟩), ?_, ?_⟩
    · -- One brace is opened, for the class that has waited for it if there is one.
      rw [hkept (by omega), hbodies, Option.toList_map]
    · intro body hbody
      obtain ⟨place, hplace, rfl⟩ := Option.map_eq_some_iff.mp hbody
      exact ⟨hplace, hawaited, hdepth.symm, by omega⟩
  | closes hdepth hbodies hclasses hawaited =>
    refine ⟨none, ?_, by simp⟩
    rw [hbodies, h.bodies_close, hdepth]
    rfl

/-- A body that is open now was opened just now, or was open before and is not too deep. -/
theorem mem_bodies_of_opened {opened : Option OpenBody} {body : OpenBody}
    (h : s'.bodies = opened.toList ++ s.bodies.filter (·.depth ≤ s'.depth)) :
    body ∈ s'.bodies ↔ body ∈ opened ∨ body ∈ s.bodies ∧ body.depth ≤ s'.depth := by
  rw [h, List.mem_append, Option.mem_toList, List.mem_filter, decide_eq_true_eq]
  rfl

/-- Each step keeps bodies nested. -/
theorem IsNested.step (h : s.IsNested) (hstep : Step s s') : s'.IsNested := by
  obtain ⟨opened, hbodies, hopened⟩ := h.exists_opened hstep
  refine ⟨?_, ?_, ?_⟩
  · rw [hbodies, List.pairwise_append]
    refine ⟨?_, h.descend.filter _, ?_⟩
    · cases opened with
      | none => exact .nil
      | some body => exact List.pairwise_singleton _ body
    · -- what is opened is deeper than the scan has been, and so than all other bodies
      intro body hbody other hother
      obtain ⟨-, -, hdepth, hdeeper⟩ := hopened body (Option.mem_toList.mp hbody)
      have hle := h.le_depth other (List.mem_of_mem_filter hother)
      omega
  · intro body hbody
    rcases (mem_bodies_of_opened hbodies).mp hbody with hnew | ⟨hold, -⟩
    · obtain ⟨-, -, hdepth, hdeeper⟩ := hopened body hnew
      omega
    · exact h.pos body hold
  · intro body hbody
    rcases (mem_bodies_of_opened hbodies).mp hbody with hnew | ⟨-, hle⟩
    · exact (hopened body hnew).2.2.1.le
    · exact hle

/-! ## Places of bodies -/

/-- The next body to be opened has this place or a later one. -/
def nextPlace (s : ScanState) : Nat := s.awaited.getD s.classes.length

/-- The places of bodies that have been opened are in front of the next one, and the class that
waits for its body is there. -/
structure IsPlaced (s : ScanState) : Prop where
  opened : ∀ body ∈ s.bodies, body.place < s.nextPlace
  awaited : ∀ place ∈ s.awaited, place < s.classes.length

/-- The class that waits is one of those that were found. -/
theorem IsPlaced.nextPlace_le (h : s.IsPlaced) : s.nextPlace ≤ s.classes.length := by
  unfold nextPlace
  cases hawaited : s.awaited with
  | none => exact le_rfl
  | some place => exact (h.awaited place hawaited).le

/-- Places only go on. -/
theorem IsPlaced.nextPlace_step (h : s.IsPlaced) (hstep : Step s s') :
    s.nextPlace ≤ s'.nextPlace ∧ ∀ place ∈ s'.awaited, place < s'.classes.length := by
  cases hstep with
  | stays _ _ hclasses hawaited | closes _ _ hclasses hawaited =>
    rw [nextPlace, nextPlace, hawaited, hclasses]
    exact ⟨le_rfl, h.awaited⟩
  | declares _ _ _ _ hclasses hawaited =>
    rw [nextPlace.eq_def s', hawaited, hclasses, List.length_append]
    refine ⟨h.nextPlace_le, ?_⟩
    intro place hplace
    rw [← Option.some.inj hplace]
    exact Nat.lt_succ_self _
  | attaches _ _ _ _ _ _ _ hclasses hawaited =>
    rw [nextPlace, nextPlace, hawaited, hclasses, List.length_modify]
    exact ⟨le_rfl, h.awaited⟩
  | opens _ _ hclasses hawaited =>
    rw [nextPlace.eq_def s', hawaited, hclasses]
    refine ⟨h.nextPlace_le, ?_⟩
    intro place hplace
    cases hplace

/-- A body that is opened has just the place that was the next. -/
theorem IsNested.mem_step (h : s.IsNested) (hstep : Step s s') {body : OpenBody}
    (hbody : body ∈ s'.bodies) :
    body ∈ s.bodies ∨ s.awaited = some body.place ∧ s'.awaited = none := by
  obtain ⟨opened, hbodies, hopened⟩ := h.exists_opened hstep
  rcases (mem_bodies_of_opened hbodies).mp hbody with hnew | ⟨hold, -⟩
  · obtain ⟨hplace, hnone, -, -⟩ := hopened body hnew
    exact .inr ⟨hplace, hnone⟩
  · exact .inl hold

/-- The step that opens the body of a class adds no class. -/
theorem classes_of_opened (hstep : Step s s') {place : Nat} (hawaited : s.awaited = some place)
    (hnone : s'.awaited = none) : s'.classes = s.classes := by
  cases hstep with
  | opens hdepth hbodies hclasses _ => exact hclasses
  | stays _ _ _ hsame | attaches _ _ _ _ _ _ _ _ hsame | closes _ _ _ hsame =>
    rw [hnone, hawaited] at hsame
    cases hsame
  | declares _ _ _ _ _ hsome =>
    rw [hnone] at hsome
    cases hsome

/-- Each step keeps places in order. -/
theorem IsPlaced.step (h : s.IsPlaced) (hnested : s.IsNested) (hstep : Step s s') :
    s'.IsPlaced := by
  obtain ⟨hlater, hawaited⟩ := h.nextPlace_step hstep
  refine ⟨?_, hawaited⟩
  intro body hbody
  rcases hnested.mem_step hstep hbody with hold | ⟨hplace, hnone⟩
  · exact (h.opened body hold).trans_le hlater
  · -- nothing waits behind a body that is opened, and the next class is not declared yet
    rw [nextPlace, hnone, classes_of_opened hstep hplace hnone]
    exact h.awaited body.place hplace

/-- A body that is not open any more does not come back. -/
theorem IsPlaced.not_mem_step (h : s.IsPlaced) (hnested : s.IsNested) (hstep : Step s s')
    {body : OpenBody} (hplace : body.place < s.nextPlace) (hgone : body ∉ s.bodies) :
    body.place < s'.nextPlace ∧ body ∉ s'.bodies := by
  refine ⟨hplace.trans_le (h.nextPlace_step hstep).1, fun hbody => ?_⟩
  rcases hnested.mem_step hstep hbody with hold | ⟨hnext, -⟩
  · exact hgone hold
  · rw [nextPlace, hnext] at hplace
    exact lt_irrefl _ hplace

/-! ## Between two points -/

/-- The bodies of a state are in order. -/
structure IsOrdered (s : ScanState) : Prop where
  nested : s.IsNested
  placed : s.IsPlaced

/-- At first no body is open and no class waits. -/
theorem isOrdered_empty : IsOrdered {} :=
  ⟨⟨.nil, by simp, by simp⟩, ⟨by simp, by simp⟩⟩

theorem IsOrdered.step (h : s.IsOrdered) (hstep : Step s s') : s'.IsOrdered :=
  ⟨h.nested.step hstep, h.placed.step h.nested hstep⟩

/-- A body that is gone does not come back, since its place is never the next one again. The
induction is on the points to come. -/
theorem IsOrdered.not_mem_of_isChain (h : s.IsOrdered) {later : List ScanState}
    (hchain : (s :: later).IsChain Step) {body : OpenBody} (hplace : body.place < s.nextPlace)
    (hgone : body ∉ s.bodies) : ∀ t ∈ later, body ∉ t.bodies := by
  have hlater := hchain.cons_induction
    (fun t => t.IsOrdered ∧ body.place < t.nextPlace ∧ body ∉ t.bodies) later
    (fun t t' hstep ⟨hordered, hplace, hgone⟩ =>
      ⟨hordered.step hstep, hordered.placed.not_mem_step hordered.nested hstep hplace hgone⟩)
    ⟨h, hplace, hgone⟩
  intro t ht
  exact (hlater t ht).2.2

/-- A step keeps a body if the depth behind it is not below that of the body, and only then. -/
theorem IsOrdered.mem_step_iff (h : s.IsOrdered) (hstep : Step s s') {body : OpenBody}
    (hbody : body ∈ s.bodies) : body ∈ s'.bodies ↔ body.depth ≤ s'.depth := by
  constructor
  · intro hbody'
    exact (h.step hstep).nested.le_depth body hbody'
  · intro hdepth
    obtain ⟨opened, hbodies, -⟩ := h.nested.exists_opened hstep
    exact (mem_bodies_of_opened hbodies).mpr (.inr ⟨hbody, hdepth⟩)

/-- **How long a body is open**: as long as the depth does not fall below its own. -/
theorem IsOrdered.mem_bodies_iff (h : s.IsOrdered) {between : List ScanState}
    (hchain : (s :: between ++ [s']).IsChain Step) {body : OpenBody} (hbody : body ∈ s.bodies) :
    body ∈ s'.bodies ↔ ∀ t ∈ between ++ [s'], body.depth ≤ t.depth := by
  induction between generalizing s with
  | nil =>
    have hstep : Step s s' := List.isChain_pair.mp hchain
    rw [h.mem_step_iff hstep hbody, List.nil_append, List.forall_mem_singleton]
  | cons t between ih =>
    obtain ⟨hstep, hchain⟩ := List.isChain_cons_cons.mp hchain
    have hordered := h.step hstep
    rw [List.cons_append, List.forall_mem_cons, ← h.mem_step_iff hstep hbody]
    by_cases hopen : body ∈ t.bodies
    · rw [ih hordered hchain hopen, and_iff_right hopen]
    · -- the body is closed by the first step, and no later one opens it again
      have hplace : body.place < t.nextPlace :=
        (h.placed.opened body hbody).trans_le (h.placed.nextPlace_step hstep).1
      have hclosed : body ∉ s'.bodies :=
        hordered.not_mem_of_isChain hchain hplace hopen s' (by simp)
      exact iff_of_false hclosed (fun hall => hopen hall.1)

/-! ## Methods -/

/-- The methods of the class at a place, so far. -/
def methodsAt (s : ScanState) (place : Nat) : List Action :=
  (s.classes[place]?.map ClassDecl.methods).getD []

/-- A class gets a method only in a step that finds its body open at the depth of the scan, with all
other open bodies less deep. -/
theorem IsNested.methodsAt_step (h : s.IsNested) (hstep : Step s s') (place : Nat) :
    s'.methodsAt place = s.methodsAt place ∨
      ∃ body outer method, s.bodies = body :: outer ∧ body.place = place ∧ body.depth = s.depth ∧
        (∀ other ∈ outer, other.depth < s.depth) ∧
        s'.methodsAt place = s.methodsAt place ++ [method] := by
  unfold methodsAt
  cases hstep with
  | stays _ _ hclasses _ | opens _ _ hclasses _ | closes _ _ hclasses _ =>
    rw [hclasses]
    exact .inl rfl
  | declares c hnew _ _ hclasses _ =>
    rw [hclasses, List.getElem?_append]
    split
    next => exact .inl rfl
    next hle =>
      -- what is declared has no methods yet
      rw [List.getElem?_eq_none (Nat.le_of_not_lt hle)]
      refine .inl ?_
      cases hat : [c][place - s.classes.length]? with
      | none => rfl
      | some declared =>
        have hdeclared := List.mem_of_getElem? hat
        rw [List.mem_singleton] at hdeclared
        rw [hdeclared]
        exact hnew
  | attaches body outer method hinnermost hopen _ _ hclasses _ =>
    by_cases hplace : body.place = place
    · have hdescend := h.descend
      rw [hinnermost] at hdescend
      rw [hclasses, hplace, List.getElem?_modify_eq]
      cases hat : s.classes[place]? with
      | none => exact .inl rfl
      | some c =>
        refine .inr ⟨body, outer, method, hinnermost, hplace, hopen, ?_, rfl⟩
        intro other hother
        rw [← hopen]
        exact (List.pairwise_cons.mp hdescend).1 other hother
    · rw [hclasses, List.getElem?_modify_ne _ _ hplace]
      exact .inl rfl

/-! ## Depths -/

/-- A character changes the depth as it changes the count of braces. -/
theorem depth_brace (s : ScanState) (c : Char) : ((s.brace c).depth : ℤ) = countBrace s.depth c := by
  unfold brace countBrace
  split
  · exact Int.natCast_succ s.depth
  · split
    · show ((s.depth - 1 : ℕ) : ℤ) = max ((s.depth : ℤ) - 1) 0
      omega
    · rfl

theorem map_depth_scanl_brace (s : ScanState) (code : Text) :
    (code.scanl brace s).map (fun t => (t.depth : ℤ)) = code.scanl countBrace (s.depth : ℤ) := by
  induction code generalizing s with
  | nil => rfl
  | cons c code ih => rw [List.scanl_cons, List.scanl_cons, List.map_cons, ih, depth_brace]

theorem depth_foldl_brace (s : ScanState) (code : Text) :
    ((code.foldl brace s).depth : ℤ) = code.foldl countBrace (s.depth : ℤ) :=
  (List.foldl_hom (fun t : ScanState => (t.depth : ℤ)) fun t c => (depth_brace t c).symm).symm

theorem depth_addCode (s : ScanState) (file : Path) (line : Nat) (code : Text) :
    (s.addCode file line code).depth = s.depth := by
  unfold addCode
  split
  · rfl
  · split
    · rfl
    · split
      next head _ =>
        unfold addMethod
        split
        · split <;> rfl
        · rfl
      next => rfl

theorem depth_declarations (s : ScanState) (file : Path) (line : Nat) (text : Text) :
    (s.declarations file line text).depth = s.depth := by
  unfold declarations
  split
  · rfl
  · obtain ⟨waiting, hwaiting⟩ := addAttributes_eq s line (splitAttributes text).1
    dsimp only
    rw [hwaiting, depth_addCode]

/-- Whether a comment goes on is found when the code of a line is cleaned. -/
theorem inCodeComment_addLine (file : Path) (s : ScanState) (line : Nat) (text : Text) :
    (s.addLine file line text).inCodeComment = (bareCode text s.inCodeComment).2 := by
  have hcomments : (s.addLine file line text).comments =
      ((withoutComments text s.inComment).2, (bareCode text s.inCodeComment).2) := by
    unfold addLine
    rw [comments_foldl_brace, comments_declarations]
    rfl
  exact congrArg Prod.snd hcomments

/-- Depths depend on nothing but the code, whatever is declared there. -/
theorem map_depth_pointsFrom (file : Path) (s : ScanState) (line : Nat) (lines : List Text) :
    (pointsFrom file s line lines).map (fun t => (t.depth : ℤ)) =
      bracesFrom s.depth s.inCodeComment lines := by
  induction lines generalizing s line with
  | nil => rfl
  | cons text lines ih =>
    have hline : ((s.addLine file line text).depth : ℤ) =
        (bareCode text s.inCodeComment).1.foldl countBrace (s.depth : ℤ) := by
      unfold addLine
      rw [depth_foldl_brace, depth_declarations]
    rw [pointsFrom, bracesFrom, List.map_cons, List.map_append, ih, hline, inCodeComment_addLine,
      linePoints, map_depth_scanl_brace, depth_declarations]

end ScanState

/-! ## A whole source -/

/-- The points of a scan of a source. -/
def points (source : Text) (file : Path) : List ScanState :=
  ScanState.pointsFrom file {} 1 (Text.lines source)

/-- **Open bodies are nested.** Whatever a source is, a scan of it ends with its classes, and on the
way the depth counts braces of the code, held at zero; open bodies lie one inside of the other, at
depths from 1 to that of the scan; a body is open for as long as the depth does not fall below its
own; and a class gets a method only when its body is the innermost one and open at just the depth of
the scan. -/
theorem open_bodies_are_nested (source : Text) (file : Path) :
    (points source file).getLast?.map ScanState.classes = some (classesOf source file) ∧
    (points source file).map (fun s => (s.depth : ℤ)) = bracesFrom 0 false (Text.lines source) ∧
    (∀ d ∈ bracesFrom 0 false (Text.lines source), 0 ≤ d) ∧
    (∀ s ∈ points source file, s.IsNested) ∧
    (∀ s between s', s :: between ++ [s'] <:+: points source file → ∀ body ∈ s.bodies,
      (body ∈ s'.bodies ↔ ∀ t ∈ between ++ [s'], body.depth ≤ t.depth)) ∧
    (∀ s s', [s, s'] <:+: points source file → ∀ place,
      s'.methodsAt place = s.methodsAt place ∨
        ∃ body outer method, s.bodies = body :: outer ∧ body.place = place ∧ body.depth = s.depth ∧
          (∀ other ∈ outer, other.depth < s.depth) ∧
          s'.methodsAt place = s.methodsAt place ++ [method]) := by
  have hchain : (points source file).IsChain ScanState.Step :=
    ScanState.isChain_pointsFrom file {} 1 (Text.lines source)
  -- The invariant holds at first, and each step of the chain keeps it.
  have hordered : ∀ s ∈ points source file, s.IsOrdered :=
    hchain.induction ScanState.IsOrdered (points source file) (fun s s' hstep h => h.step hstep) (by
      intro hne
      have hhead := ScanState.head?_pointsFrom file {} 1 (Text.lines source)
      rw [← points, List.head?_eq_some_head hne] at hhead
      rw [Option.some.inj hhead]
      exact ScanState.isOrdered_empty)
  have hdepths := ScanState.map_depth_pointsFrom file {} 1 (Text.lines source)
  refine ⟨?_, hdepths, ?_, ?_, ?_, ?_⟩
  · rw [points, ScanState.getLast?_pointsFrom]
    rfl
  · intro d hd
    obtain ⟨s, -, rfl⟩ := List.mem_map.mp (hdepths.symm ▸ hd)
    exact Int.natCast_nonneg s.depth
  · intro s hs
    exact (hordered s hs).nested
  · intro s between s' hinfix body hbody
    have hs : s ∈ points source file := hinfix.subset (by simp)
    have hsteps := List.IsChain.infix hchain hinfix
    exact (hordered s hs).mem_bodies_iff hsteps hbody
  · intro s s' hinfix place
    have hs : s ∈ points source file := hinfix.subset (by simp)
    have hsteps := List.IsChain.infix hchain hinfix
    exact (hordered s hs).nested.methodsAt_step (List.isChain_pair.mp hsteps) place

-- a brace too many in front of a class does not count against its body
example : (points "\x7d\nclass A \x7b \x7b\x7d".toList ⟨.relative, []⟩).getLast?.map
    (fun s => (s.depth, s.bodies)) = some (1, [⟨0, 1⟩]) := by decide +kernel

end RouteAtlas.Controllers
