import Mathlib.Data.List.Pairwise
import RouteAtlas.Proofs.Script.Lines
import RouteAtlas.Proofs.Script.Scan
import RouteAtlas.Script.Read

/-!
# The lines of functions

In a script that is read from a text, each function begins on a later line than the functions before
it, those around it included (`pairwise_firstLine_of_read`). So functions can be told apart by their
lines.

What a reader of statements has found is described by the tokens in front of it and by those that it
leaves (`Holds`), a relation that adds up when one reader follows another. A function does not add
up with its block in this way: it stands in front of the block, and on another line, because a block
begins behind the end of a line or is the rest of a line itself (`ReadsBlock`).

There are three stages. The functions of a script are first listed without any reader, as a relation
between a function and the blocks that it stands in (`isIn_iff_mem_functionsIn`). Then come the
readers of simple statements, which find no functions at all; that is a class, found by following
the text of a reader, since nothing has to be said but where the reader ends. The readers of the
other statements call each other, and for them the bound on the descent carries the induction
(`findsFunctions`): each of them `Adds` what it finds to what was found before it, and a reader that
is put together of others does so if they do.

Where a function stands is the line of its own keyword or of something applied to it, whichever
comes first. That is why the tokens between the two have to be known to be in order, and why the
lines of expressions are looked into before.
-/

namespace RouteAtlas.Script

open Reading

/-! ## The functions of a script -/

/-- The functions of a script are those of its statements, one behind the other. -/
theorem functionsIn_eq_flatMap (script : List Statement) :
    functionsIn script = script.flatMap Statement.functions := by
  induction script with
  | nil => rfl
  | cons s script ih => rw [functionsIn, ih, List.flatMap_cons]

/-- Scripts that stand one behind the other have their functions one behind the other. -/
theorem functionsIn_append (script more : List Statement) :
    functionsIn (script ++ more) = functionsIn script ++ functionsIn more := by
  simp only [functionsIn_eq_flatMap, List.flatMap_append]

/-- A block under a head that is no function has the functions of the block. -/
theorem functionsIn_compound (body : List Statement) :
    functionsIn [.compound body] = functionsIn body := by
  simp only [functionsIn, Statement.functions, List.append_nil]

theorem functionsIn_blocks (body more : List Statement) :
    functionsIn [.compound (body ++ more)] = functionsIn body ++ functionsIn more := by
  rw [functionsIn_compound, functionsIn_append]

/-- A function comes before those of its own block. -/
theorem functionsIn_function (head : FunctionHead) (body : List Statement) :
    functionsIn [.function head body] = head :: functionsIn body := by
  simp only [functionsIn, Statement.functions, List.append_nil]

/-- The function stands in the script, in whatever block. -/
inductive FunctionHead.IsIn (f : FunctionHead) : List Statement → Prop where
  | here {script body : List Statement} : .function f body ∈ script → f.IsIn script
  | inFunction {script body : List Statement} {head : FunctionHead} :
    .function head body ∈ script → f.IsIn body → f.IsIn script
  | inCompound {script body : List Statement} :
    .compound body ∈ script → f.IsIn body → f.IsIn script

/-- A function is listed wherever it stands. The induction is on the way down to it. -/
theorem mem_functionsIn_of_isIn {f : FunctionHead} {script : List Statement} (h : f.IsIn script) :
    f ∈ functionsIn script := by
  induction h with
  | here hmem =>
    rw [functionsIn_eq_flatMap]
    exact List.mem_flatMap.mpr ⟨_, hmem, List.mem_cons_self⟩
  | inFunction hmem _ ih =>
    rw [functionsIn_eq_flatMap]
    exact List.mem_flatMap.mpr ⟨_, hmem, List.mem_cons_of_mem _ ih⟩
  | inCompound hmem _ ih =>
    rw [functionsIn_eq_flatMap]
    exact List.mem_flatMap.mpr ⟨_, hmem, ih⟩

/-- It stands in every script with the same statements, since only its outermost block matters. -/
theorem FunctionHead.IsIn.of_subset {f : FunctionHead} {script more : List Statement}
    (h : f.IsIn script) (hmore : script ⊆ more) : f.IsIn more := by
  cases h with
  | here hmem => exact .here (hmore hmem)
  | inFunction hmem h => exact .inFunction (hmore hmem) h
  | inCompound hmem h => exact .inCompound (hmore hmem) h

mutual

/-- What is listed for a statement stands in it. The recursion is the one by which functions are
listed. -/
theorem isIn_of_mem_functions {f : FunctionHead} :
    ∀ s : Statement, f ∈ s.functions → f.IsIn [s]
  | .function head body, hf => by
    rcases List.mem_cons.mp hf with rfl | hf
    · exact .here List.mem_cons_self
    · exact .inFunction List.mem_cons_self (isIn_of_mem_functionsIn body hf)
  | .compound body, hf => .inCompound List.mem_cons_self (isIn_of_mem_functionsIn body hf)
  | .assignment _ _ _, hf => nomatch hf
  | .simple, hf => nomatch hf

theorem isIn_of_mem_functionsIn {f : FunctionHead} :
    ∀ script : List Statement, f ∈ functionsIn script → f.IsIn script
  | [], hf => nomatch hf
  | s :: rest, hf => by
    rcases List.mem_append.mp hf with hf | hf
    · exact (isIn_of_mem_functions s hf).of_subset (by simp)
    · exact (isIn_of_mem_functionsIn rest hf).of_subset (List.subset_cons_self s rest)

end

/-- **Which functions are listed**: those that stand in the script, however deep. -/
theorem isIn_iff_mem_functionsIn {f : FunctionHead} {script : List Statement} :
    f.IsIn script ↔ f ∈ functionsIn script :=
  ⟨mem_functionsIn_of_isIn, isIn_of_mem_functionsIn script⟩

/-! ## The lines of functions -/

/-- The least of some lines is one of them, or the one that it started with, and no greater than
that. -/
theorem foldl_min_line (applied : List PlacedExpr) (line : Nat) :
    applied.foldl (fun line d => min line d.line) line ≤ line ∧
      (applied.foldl (fun line d => min line d.line) line = line ∨
        ∃ d ∈ applied, d.line = applied.foldl (fun line d => min line d.line) line) := by
  induction applied generalizing line with
  | nil => exact ⟨Nat.le_refl _, .inl rfl⟩
  | cons d applied ih =>
    obtain ⟨hle, hmem⟩ := ih (min line d.line)
    rw [List.foldl_cons]
    refine ⟨hle.trans (Nat.min_le_left _ _), ?_⟩
    rcases hmem with hmem | ⟨e, he, hline⟩
    · rw [hmem]
      rcases Nat.le_total line d.line with h | h
      · exact .inl (Nat.min_eq_left h)
      · exact .inr ⟨d, List.mem_cons_self, (Nat.min_eq_right h).symm⟩
    · exact .inr ⟨e, List.mem_cons_of_mem _ he, hline⟩

/-- A function begins no later than with its own keyword. -/
theorem FunctionHead.firstLine_le (f : FunctionHead) : f.firstLine ≤ f.line :=
  (foldl_min_line f.decorators f.line).1

/-- A function begins on the line of its own keyword or of something applied to it. -/
theorem FunctionHead.firstLine_cases (f : FunctionHead) :
    f.firstLine = f.line ∨ ∃ d ∈ f.decorators, d.line = f.firstLine :=
  (foldl_min_line f.decorators f.line).2

/-- The functions stand, in this order, in the tokens that are in front of the rest: each begins on
the line of a token, before the lines of all functions and tokens behind it. -/
structure Holds (tokens rest : List Placed) (found : List FunctionHead) : Prop where
  suffix : rest <:+ tokens
  begins : ∀ f ∈ found, IsLineOf tokens f.firstLine
  ends : ∀ f ∈ found, ∀ p ∈ rest, f.firstLine < p.line
  pairwise : found.Pairwise (·.firstLine < ·.firstLine)

section Holds

variable {tokens middle rest : List Placed} {found more : List FunctionHead}

/-- Nothing was found, and some tokens may have been taken. -/
theorem holds_nil (h : rest <:+ tokens) : Holds tokens rest [] where
  suffix := h
  begins _ hf := absurd hf List.not_mem_nil
  ends _ hf := absurd hf List.not_mem_nil
  pairwise := List.Pairwise.nil

/-- A function by itself: its keyword and what is applied to it are among the tokens, and the rest
is on later lines than its keyword. -/
theorem holds_singleton {f : FunctionHead} (hrest : rest <:+ tokens) (hline : IsLineOf tokens f.line)
    (happlied : ∀ d ∈ f.decorators, IsLineOf tokens d.line)
    (hlater : ∀ p ∈ rest, f.line < p.line) : Holds tokens rest [f] where
  suffix := hrest
  begins g hg := by
    rw [List.mem_singleton.mp hg]
    rcases f.firstLine_cases with heq | ⟨d, hd, heq⟩
    · exact heq ▸ hline
    · exact heq ▸ happlied d hd
  ends g hg p hp := by
    rw [List.mem_singleton.mp hg]
    exact Nat.lt_of_le_of_lt f.firstLine_le (hlater p hp)
  pairwise := List.pairwise_singleton _ _

/-- **What one reader finds adds up with what the next one does**, for the tokens that are left
between them lie behind what was found first. -/
theorem Holds.append (h : Holds tokens middle found) (hmore : Holds middle rest more) :
    Holds tokens rest (found ++ more) where
  suffix := hmore.suffix.trans h.suffix
  begins f hf := by
    rcases List.mem_append.mp hf with hf | hf
    · exact h.begins f hf
    · exact (hmore.begins f hf).of_suffix h.suffix
  ends f hf p hp := by
    rcases List.mem_append.mp hf with hf | hf
    · exact h.ends f hf p (hmore.suffix.subset hp)
    · exact hmore.ends f hf p hp
  pairwise := by
    refine List.pairwise_append.mpr ⟨h.pairwise, hmore.pairwise, fun f hf g hg => ?_⟩
    -- The later function begins on the line of a token that the first reader has left.
    obtain ⟨p, hp, hline⟩ := hmore.begins g hg
    exact hline ▸ h.ends f hf p hp

/-- Tokens that are passed in front make no difference. -/
theorem Holds.behind (hmiddle : middle <:+ tokens) (h : Holds middle rest found) :
    Holds tokens rest found :=
  (holds_nil hmiddle).append h

end Holds

/-! ## Simple statements -/

/-- The statements that are read hold no functions. -/
class ReadsSimple (r : Reading Statement) : Prop where
  functions {tokens : List Placed} {s : Statement} {rest : List Placed} :
    r tokens = some (s, rest) → s.functions = []

section ReadsSimple

variable {α : Type} {x : Reading α} {next : α → Reading Statement}

instance : ReadsSimple (pure .simple) where
  functions h := by
    cases h
    rfl

instance (line : Nat) (targets : List Expr) (value : Expr) :
    ReadsSimple (pure (.assignment line targets value)) where
  functions h := by
    cases h
    rfl

instance : ReadsSimple (failure : Reading Statement) where
  functions h := by cases h

theorem readsSimple_bind (hnext : ∀ a, ReadsSimple (next a)) : ReadsSimple (x >>= next) where
  functions h := by
    obtain ⟨a, middle, -, h⟩ := bind_eq_some.mp h
    exact (hnext a).functions h

instance [∀ a, ReadsSimple (next a)] : ReadsSimple (x >>= next) :=
  readsSimple_bind fun _ => inferInstance

instance {c : Prop} [Decidable c] (r other : Reading Statement) [ReadsSimple r]
    [ReadsSimple other] : ReadsSimple (if c then r else other) := by
  split
  · infer_instance
  · infer_instance

end ReadsSimple

instance (line : Nat) (targets : List Expr) (target : Expr) (n : Nat) :
    ReadsSimple (assignment line targets target n) := by
  induction n generalizing targets target with
  | zero =>
    unfold assignment
    infer_instance
  | succ n ih =>
    unfold assignment
    infer_instance

-- an instance for a reader has as many steps as the reader has
set_option synthInstance.maxSize 4000 in
instance (n : Nat) : ReadsSimple (expressionStatement n) := by
  unfold expressionStatement
  infer_instance

instance (n : Nat) : ReadsSimple (simpleStatement n) := by
  unfold simpleStatement
  refine readsSimple_bind fun token => ?_
  split <;> infer_instance

/-- The end of a line stands in front of the tokens. -/
def IsBehindLine (tokens middle : List Placed) : Prop :=
  ∃ p, p.token = .lineEnd ∧ p :: middle <:+ tokens

/-- More tokens in front make no difference. -/
theorem IsBehindLine.of_suffix {tokens middle rest : List Placed} (h : IsBehindLine middle rest)
    (hmiddle : middle <:+ tokens) : IsBehindLine tokens rest := by
  obtain ⟨p, hend, hrest⟩ := h
  exact ⟨p, hend, hrest.trans hmiddle⟩

/-- What stands behind the end of a line stands behind that line. -/
theorem IsBehindLine.suffix {tokens rest : List Placed} (h : IsBehindLine tokens rest) :
    rest <:+ tokens := by
  obtain ⟨p, -, hrest⟩ := h
  exact (List.suffix_cons p rest).trans hrest

/-- A line that ends with the next token ends in front of all others. -/
theorem isBehindLine_of_next {tokens : List Placed}
    (h : (tokens.head?.map (·.token) == some .lineEnd) = true) :
    IsBehindLine tokens (tokens.drop 1) := by
  obtain ⟨p, hend, htokens⟩ := exists_of_next h
  exact ⟨p, hend, htokens ▸ List.suffix_rfl⟩

theorem isBehindLine_of_expectToken {tokens rest : List Placed} {u : Unit}
    (h : expectToken .lineEnd tokens = some (u, rest)) : IsBehindLine tokens rest := by
  obtain ⟨p, hend, rfl⟩ := exists_of_expectToken h
  exact ⟨p, hend, List.suffix_rfl⟩

/-- Simple statements end with their line. -/
theorem simpleLine_spec {depth n : Nat} {tokens rest : List Placed} {found : List Statement}
    (h : simpleLine depth n tokens = some (found, rest)) :
    functionsIn found = [] ∧ IsBehindLine tokens rest := by
  induction n generalizing tokens found with
  | zero => cases h
  | succ n ih =>
    unfold simpleLine at h
    obtain ⟨first, middle, hfirst, h⟩ := bind_eq_some.mp h
    obtain ⟨separated, behind, haccept, h⟩ := bind_eq_some.mp h
    have hsimple : first.functions = [] := ReadsSimple.functions hfirst
    have hbehind : behind <:+ tokens :=
      (Shortens.suffix haccept).trans (Shortens.suffix hfirst)
    split at h
    · -- Behind a semicolon the line may end, or there is another statement.
      obtain ⟨next, same, hpeek, h⟩ := bind_eq_some.mp h
      cases hpeek
      split at h
      next hnext =>
        cases h
        simp only [functionsIn, hsimple, List.append_nil]
        exact ⟨trivial, (isBehindLine_of_next hnext).of_suffix hbehind⟩
      next =>
        obtain ⟨more, left, hmore, h⟩ := bind_eq_some.mp h
        cases h
        obtain ⟨hfound, hline⟩ := ih hmore
        simp only [functionsIn, hsimple, hfound, List.append_nil]
        exact ⟨trivial, hline.of_suffix hbehind⟩
    · -- Without one the line has to end.
      obtain ⟨_, left, hend, h⟩ := bind_eq_some.mp h
      cases h
      simp only [functionsIn, hsimple, List.append_nil]
      exact ⟨trivial, (isBehindLine_of_expectToken hend).of_suffix hbehind⟩

/-! ## Statements of all kinds -/

/-- Tokens in order are in order from any place on. -/
theorem InOrder.of_suffix {tokens rest : List Placed} (h : InOrder tokens)
    (hrest : rest <:+ tokens) : InOrder rest :=
  List.Pairwise.sublist hrest.sublist h

/-- What is behind a line is on later lines than the token in front. -/
theorem InOrder.lt_of_isBehindLine {p : Placed} {tokens middle : List Placed}
    (h : InOrder (p :: tokens)) (hmiddle : IsBehindLine (p :: tokens) middle) :
    ∀ q ∈ middle, p.line < q.line := by
  obtain ⟨last, hend, hsuffix⟩ := hmiddle
  intro q hq
  have hlt : last.line < q.line :=
    (List.rel_of_pairwise_cons (h.of_suffix hsuffix) hq).lt hend
  rcases List.mem_cons.mp (hsuffix.subset List.mem_cons_self) with rfl | hlast
  · exact hlt
  · exact Nat.lt_of_le_of_lt (List.rel_of_pairwise_cons h hlast).le hlt

/-- The functions found are those given, and more that stand in the tokens taken. -/
structure Adds (before : List FunctionHead) (r : Reading (List Statement)) : Prop where
  exists_more {tokens rest : List Placed} {found : List Statement} :
    InOrder tokens → r tokens = some (found, rest) →
      ∃ more, functionsIn found = before ++ more ∧ Holds tokens rest more

section Adds

variable {α : Type} {before : List FunctionHead} {r other : Reading (List Statement)}
  {x : Reading α}

/-- What a reader finds stands in the tokens that it takes. -/
theorem Adds.holds (h : Adds [] r) {tokens rest : List Placed} {found : List Statement}
    (htokens : InOrder tokens) (hr : r tokens = some (found, rest)) :
    Holds tokens rest (functionsIn found) := by
  obtain ⟨more, hmore, hholds⟩ := h.exists_more htokens hr
  rw [hmore]
  exact hholds

/-- A reader that takes nothing finds what it is given. -/
theorem adds_pure {found : List Statement} (h : functionsIn found = before) :
    Adds before (pure found) where
  exists_more _ hr := by
    cases hr
    exact ⟨[], by rw [h, List.append_nil], holds_nil List.suffix_rfl⟩

theorem adds_failure : Adds before failure where
  exists_more _ hr := by cases hr

/-- Behind a reader that finds nothing. -/
theorem adds_behind {next : α → Reading (List Statement)} [Shortens x]
    (hnext : ∀ a, Adds before (next a)) : Adds before (x >>= next) where
  exists_more htokens hr := by
    obtain ⟨a, middle, hx, hr⟩ := bind_eq_some.mp hr
    have hmiddle : middle <:+ _ := Shortens.suffix hx
    obtain ⟨more, hfound, hmore⟩ := (hnext a).exists_more (htokens.of_suffix hmiddle) hr
    exact ⟨more, hfound, hmore.behind hmiddle⟩

/-- Behind a reader of statements. -/
theorem Adds.then {next : List Statement → Reading (List Statement)} (hr : Adds [] r)
    (hnext : ∀ found, Adds (before ++ functionsIn found) (next found)) :
    Adds before (r >>= next) where
  exists_more htokens hbind := by
    obtain ⟨found, middle, hfirst, hbind⟩ := bind_eq_some.mp hbind
    have hholds := hr.holds htokens hfirst
    obtain ⟨more, hall, hmore⟩ :=
      (hnext found).exists_more (htokens.of_suffix hholds.suffix) hbind
    exact ⟨functionsIn found ++ more, by rw [hall, List.append_assoc], hholds.append hmore⟩

theorem adds_ite {c : Prop} [Decidable c] (hr : Adds before r) (hother : Adds before other) :
    Adds before (if c then r else other) := by
  split
  · exact hr
  · exact hother

end Adds

/-- A line of simple statements adds no functions. -/
theorem adds_simpleLine (depth n : Nat) : Adds [] (simpleLine depth n) where
  exists_more _ hr := by
    obtain ⟨hfound, hline⟩ := simpleLine_spec hr
    exact ⟨[], hfound, holds_nil hline.suffix⟩

/-- A block stands behind the end of a line. -/
structure ReadsBlock (r : Reading (List Statement)) : Prop where
  exists_middle {tokens rest : List Placed} {found : List Statement} :
    InOrder tokens → r tokens = some (found, rest) →
      ∃ middle, IsBehindLine tokens middle ∧ Holds middle rest (functionsIn found)

/-- A block by itself, without what it belongs to. -/
theorem ReadsBlock.adds {r : Reading (List Statement)} (h : ReadsBlock r) : Adds [] r where
  exists_more htokens hr := by
    obtain ⟨middle, hline, hholds⟩ := h.exists_middle htokens hr
    exact ⟨_, rfl, hholds.behind hline.suffix⟩

/-- All readers of statements find functions where they stand. -/
structure FindsFunctions (n : Nat) : Prop where
  block : ReadsBlock (block n)
  statements : Adds [] (statements n)
  statement : Adds [] (statement n)
  compound : Adds [] (compound n)
  loop (head : Reading Unit) [Shortens head] : Adds [] (loop head n)
  otherwise : Adds [] (otherwise n)
  branches : Adds [] (branches n)
  guarded : Adds [] (guarded n)
  finalBlock : Adds [] (finalBlock n)
  handlers (grouped : Bool) : Adds [] (handlers grouped n)
  cases : Adds [] (cases n)
  function {applied : List PlacedExpr} {start tokens rest : List Placed}
    {found : List Statement} : tokens <:+ start → (∀ d ∈ applied, IsLineOf start d.line) →
      InOrder tokens → function applied n tokens = some (found, rest) →
        Holds start rest (functionsIn found)

section FindsFunctions

variable {n : Nat} (h : FindsFunctions n)
include h

/-- A block is indented below the line that it belongs to, or it is the rest of that line. -/
theorem readsBlock_block : ReadsBlock (block (n + 1)) where
  exists_middle {tokens rest found} htokens hr := by
    unfold block at hr
    obtain ⟨next, same, hpeek, hr⟩ := bind_eq_some.mp hr
    cases hpeek
    split at hr
    next hnext =>
      obtain ⟨_, behind, hskip, hr⟩ := bind_eq_some.mp hr
      cases hskip
      have hline : IsBehindLine tokens (tokens.drop 1) := isBehindLine_of_next hnext
      refine ⟨tokens.drop 1, hline, Adds.holds ?_ (htokens.of_suffix hline.suffix) hr⟩
      refine adds_behind fun _ => h.statement.then fun first => h.statements.then fun more => ?_
      exact adds_behind fun _ => adds_pure (functionsIn_append first more)
    next =>
      obtain ⟨hfound, hline⟩ := simpleLine_spec hr
      exact ⟨rest, hline, hfound ▸ holds_nil List.suffix_rfl⟩

/-- Statements are read until there are none. -/
theorem adds_statements : Adds [] (statements (n + 1)) := by
  unfold statements
  refine adds_behind fun next => ?_
  split
  · exact adds_pure rfl
  · exact adds_pure rfl
  · refine h.statement.then fun first => h.statements.then fun more => ?_
    exact adds_pure (functionsIn_append first more)

/-- A head of which nothing is kept, and its block. -/
theorem adds_compound : Adds [] (compound (n + 1)) := by
  unfold compound
  exact h.block.adds.then fun body => adds_pure (functionsIn_compound body)

theorem adds_loop (head : Reading Unit) [Shortens head] : Adds [] (loop head (n + 1)) := by
  unfold loop
  refine adds_behind fun _ => h.block.adds.then fun body => h.otherwise.then fun more => ?_
  exact adds_pure (functionsIn_blocks body more)

theorem adds_otherwise : Adds [] (otherwise (n + 1)) := by
  unfold otherwise
  refine adds_behind fun _ => adds_ite ?_ (adds_pure rfl)
  exact adds_behind fun _ => h.block.adds

/-- The branches of a condition, all of whose functions count. -/
theorem adds_branches : Adds [] (branches (n + 1)) := by
  unfold branches
  refine adds_behind fun _ => adds_behind fun _ => h.block.adds.then fun body => ?_
  refine Adds.then (adds_behind fun _ => adds_ite h.branches h.otherwise) fun more => ?_
  exact adds_pure (functionsIn_blocks body more)

/-- The block at the end of a guarded one, if there is any. -/
theorem adds_finalBlock : Adds [] (finalBlock (n + 1)) := by
  unfold finalBlock
  exact adds_behind fun _ => h.block.adds

theorem adds_handlers (grouped : Bool) : Adds [] (handlers grouped (n + 1)) := by
  unfold handlers
  refine adds_behind fun _ => adds_ite ?_ (adds_pure rfl)
  refine adds_behind fun alike => adds_behind fun _ => h.block.adds.then fun first => ?_
  refine Adds.then (h.handlers grouped) fun more => ?_
  exact adds_pure (functionsIn_append first more)

/-- The cases of a value, whose patterns hold no functions. -/
theorem adds_cases : Adds [] (cases (n + 1)) := by
  unfold cases
  dsimp only
  refine adds_behind fun _ => adds_behind fun _ => adds_behind fun guarded => ?_
  -- with a condition or without, a case goes on like this
  have hrest : Adds [] (do
      expect ":"
      let first ← block n
      let more ← (do if (← peek?) == some .dedent then pure [] else cases n)
      pure (first ++ more)) := by
    refine adds_behind fun _ => h.block.adds.then fun first => ?_
    refine Adds.then (adds_behind fun _ => adds_ite (adds_pure rfl) h.cases) fun more => ?_
    exact adds_pure (functionsIn_append first more)
  exact adds_ite (adds_behind fun _ => hrest) hrest

theorem adds_guarded : Adds [] (guarded (n + 1)) := by
  unfold guarded
  refine h.block.adds.then fun body => adds_behind fun handled => adds_ite ?_ ?_
  · refine adds_behind fun grouped => h.block.adds.then fun first => ?_
    refine (h.handlers grouped).then fun others => h.otherwise.then fun more => ?_
    refine Adds.then (adds_behind fun _ => adds_ite h.finalBlock (adds_pure rfl)) fun last => ?_
    refine adds_pure ?_
    simp only [functionsIn_compound, functionsIn_append, List.nil_append]
  · refine adds_behind fun _ => h.finalBlock.then fun last => ?_
    exact adds_pure (functionsIn_blocks body last)

/-- A function stands in front of those in its block, with what is applied to it. -/
theorem holds_function {applied : List PlacedExpr} {start tokens rest : List Placed}
    {found : List Statement} (hstart : tokens <:+ start)
    (happlied : ∀ d ∈ applied, IsLineOf start d.line) (htokens : InOrder tokens)
    (hr : function applied (n + 1) tokens = some (found, rest)) :
    Holds start rest (functionsIn found) := by
  unfold function at hr
  obtain ⟨line, same, hline, hr⟩ := bind_eq_some.mp hr
  cases hline
  obtain ⟨_, behind, haccept, hr⟩ := bind_eq_some.mp hr
  obtain ⟨_, inside, hdef, hr⟩ := bind_eq_some.mp hr
  obtain ⟨id, colon, hhead, hr⟩ := bind_eq_some.mp hr
  obtain ⟨body, left, hbody, hr⟩ := bind_eq_some.mp hr
  cases hr
  have hbehind : behind <:+ tokens := Shortens.suffix haccept
  have hcolon : colon <:+ tokens :=
    (Shortens.suffix hhead).trans ((Shortens.suffix hdef).trans hbehind)
  -- its keyword is among the tokens, so the line noted for it is that of the first one
  obtain ⟨p, others, rfl⟩ : ∃ p others, tokens = p :: others := by
    obtain ⟨q, -, rfl⟩ := exists_of_expectToken hdef
    refine List.exists_cons_of_ne_nil ?_
    rintro rfl
    exact absurd (List.suffix_nil.mp hbehind) (List.cons_ne_nil _ _)
  obtain ⟨middle, hmiddle, hholds⟩ := h.block.exists_middle (htokens.of_suffix hcolon) hbody
  have hlater : ∀ q ∈ middle, p.line < q.line :=
    htokens.lt_of_isBehindLine (hmiddle.of_suffix hcolon)
  rw [functionsIn_function]
  have hself : Holds start middle [⟨p.line, id, applied⟩] :=
    holds_singleton ((hmiddle.of_suffix hcolon).suffix.trans hstart)
      ⟨p, hstart.subset List.mem_cons_self, rfl⟩ happlied hlater
  exact hself.append hholds

/-- A function by itself: its keyword is the first token, and its block lies on later lines or
behind the end of its own one. -/
theorem adds_function : Adds [] (function [] n) where
  exists_more htokens hr := by
    refine ⟨_, rfl, h.function List.suffix_rfl (fun d hd => ?_) htokens hr⟩
    exact absurd hd List.not_mem_nil

/-- A function or a class with what is applied to it, which stands on lines of its own before it. -/
theorem adds_decorated : Adds [] (do
    let applied ← decorators n
    if ← accept "class" then
      classHead n
      compound n
    else function applied n) where
  exists_more {tokens rest found} htokens hr := by
    refine ⟨_, rfl, ?_⟩
    obtain ⟨applied, behind, happlied, hr⟩ := bind_eq_some.mp hr
    obtain ⟨isClass, same, haccept, hr⟩ := bind_eq_some.mp hr
    have hbehind : same <:+ tokens :=
      (Shortens.suffix haccept).trans (Shortens.suffix happlied)
    split at hr
    · have hclass : Adds [] (do classHead n; compound n) := adds_behind fun _ => h.compound
      exact (hclass.holds (htokens.of_suffix hbehind) hr).behind hbehind
    · refine h.function hbehind ?_ (htokens.of_suffix hbehind) hr
      exact isLineOf_of_mem_decorators happlied

/-- **One statement**: its first token decides which reader goes on. -/
theorem adds_statement : Adds [] (statement (n + 1)) := by
  unfold statement
  refine adds_behind fun next => ?_
  split
  · exact adds_decorated h
  · exact adds_function h
  · refine adds_behind fun isFunction => adds_ite (adds_function h) ?_
    refine adds_behind fun _ => adds_behind fun isContext => adds_ite ?_ ?_
    · exact adds_behind fun _ => h.compound
    · exact adds_behind fun _ => h.loop _
  · exact adds_behind fun _ => adds_behind fun _ => h.compound
  · exact adds_behind fun _ => h.branches
  · exact adds_behind fun _ => h.loop _
  · exact adds_behind fun _ => h.loop _
  · exact adds_behind fun _ => adds_behind fun _ => h.guarded
  · exact adds_behind fun _ => adds_behind fun _ => h.compound
  · refine adds_behind fun isComparison => adds_ite ?_ (adds_simpleLine n n)
    refine adds_behind fun _ => h.cases.then fun body => adds_behind fun _ => ?_
    exact adds_pure (functionsIn_compound body)

end FindsFunctions

/-- **All readers of statements.** The induction is on the bound of the descent, which each of them
hands on to the others. -/
theorem findsFunctions (n : Nat) : FindsFunctions n := by
  induction n with
  | zero =>
    constructor
    case block => exact ⟨fun _ hr => nomatch hr⟩
    case function => exact fun _ _ _ hr => nomatch hr
    all_goals intros
    all_goals exact adds_failure
  | succ n h =>
    exact
      { block := readsBlock_block h
        statements := adds_statements h
        statement := adds_statement h
        compound := adds_compound h
        loop := adds_loop h
        otherwise := adds_otherwise h
        branches := adds_branches h
        guarded := adds_guarded h
        finalBlock := adds_finalBlock h
        handlers := adds_handlers h
        cases := adds_cases h
        function := holds_function h }

/-- In a script that is read from a text, each function begins on a later line than those before
it. -/
theorem pairwise_firstLine_of_read {source : Text} {script : List Statement}
    (h : read source = .ok script) :
    (functionsIn script).Pairwise (·.firstLine < ·.firstLine) := by
  unfold read at h
  split at h
  · cases h
  split at h
  next found hread =>
    cases h
    obtain ⟨tokens, htokens, hread⟩ := Option.bind_eq_some_iff.mp hread
    obtain ⟨⟨found, rest⟩, hstatements, hread⟩ := Option.bind_eq_some_iff.mp hread
    dsimp only at hread
    split at hread
    · cases hread
      have horder := inOrder_of_tokens? htokens
      exact ((findsFunctions _).statements.holds horder hstatements).pairwise
    · cases hread
  next => cases h

end RouteAtlas.Script
