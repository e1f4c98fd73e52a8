import RouteAtlas.Proofs.Script.Reading

/-!
# The lines of expressions

An expression begins on the line of one of its tokens, or on a line that its reader was given. A
reader notes the line of its first token and hands it on to others, so what is known of the lines
that have been noted so far is an index of the class `BeginsOn`: like the class for what readers
leave, it is found by following the text of a reader, and it is an induction for the readers of the
grammar, which call each other (`ExpressionsBegin`).

Where no token is left a reader notes no line of a token. It fails there, too, but it is enough that
there are tokens behind the expression: behind what is applied to a function there is the end of its
line (`isLineOf_of_mem_decorators`).
-/

namespace RouteAtlas.Script

-- an instance for a reader has as many steps as the reader has
set_option synthInstance.maxSize 8000

open Reading

/-! ## Lines of tokens -/

/-- The line of one of the tokens. -/
def IsLineOf (tokens : List Placed) (line : Nat) : Prop := ∃ p ∈ tokens, p.line = line

/-- The line of a token that is left is that of a token that was given. -/
theorem IsLineOf.of_suffix {tokens rest : List Placed} {line : Nat} (h : IsLineOf rest line)
    (hrest : rest <:+ tokens) : IsLineOf tokens line := by
  obtain ⟨p, hp, hline⟩ := h
  exact ⟨p, hrest.subset hp, hline⟩

/-- The line is one of the lines. -/
class IsOneOf (line : Nat) (lines : List Nat) : Prop where
  mem : line ∈ lines

instance (line : Nat) (lines : List Nat) : IsOneOf line (line :: lines) where
  mem := List.mem_cons_self

instance (line other : Nat) (lines : List Nat) [h : IsOneOf line lines] :
    IsOneOf line (other :: lines) where
  mem := List.mem_cons_of_mem _ h.mem

/-- An expression with more tokens behind it begins on one of the lines, or on that of one of its
tokens. -/
class BeginsOn (lines : List Nat) (r : Reading PlacedExpr) : Prop where
  mem {tokens : List Placed} {e : PlacedExpr} {rest : List Placed} :
    r tokens = some (e, rest) → rest ≠ [] → e.line ∈ lines ∨ IsLineOf tokens e.line

/-! ## Expressions that begin on a line -/

section BeginsOn

variable {α : Type} {lines : List Nat} {r other : Reading PlacedExpr} {x : Reading α}

instance (e : PlacedExpr) [h : IsOneOf e.line lines] : BeginsOn lines (pure e) where
  mem hr _ := by
    cases hr
    exact .inl h.mem

instance (line : Nat) (e : Expr) [h : IsOneOf line lines] :
    BeginsOn lines (pure (⟨line, e⟩ : PlacedExpr)) where
  mem hr _ := by
    cases hr
    exact .inl h.mem

instance : BeginsOn lines (failure : Reading PlacedExpr) where
  mem hr _ := by cases hr

instance {c : Prop} [Decidable c] [BeginsOn lines r] [BeginsOn lines other] :
    BeginsOn lines (if c then r else other) := by
  split
  · infer_instance
  · infer_instance

/-- Behind a reader whose result does not matter. -/
theorem beginsOn_behind {next : α → Reading PlacedExpr} [Shortens x]
    (hnext : ∀ a, BeginsOn lines (next a)) : BeginsOn lines (x >>= next) where
  mem hr hrest := by
    obtain ⟨a, middle, hx, hr⟩ := bind_eq_some.mp hr
    have hmiddle : middle <:+ _ := Shortens.suffix hx
    exact ((hnext a).mem hr hrest).imp_right (·.of_suffix hmiddle)

instance (priority := low) {next : α → Reading PlacedExpr} [Shortens x]
    [∀ a, BeginsOn lines (next a)] : BeginsOn lines (x >>= next) :=
  beginsOn_behind fun _ => inferInstance

/-- Behind a reader with a line, which is one of the lines in what follows. -/
theorem beginsOn_bind [Shortens x] {lineOf : α → Nat} {next : α → Reading PlacedExpr}
    (hx : ∀ {tokens a rest}, x tokens = some (a, rest) → rest ≠ [] →
      lineOf a ∈ lines ∨ IsLineOf tokens (lineOf a))
    (hshort : ∀ a, Shortens (next a)) (hnext : ∀ a, BeginsOn (lineOf a :: lines) (next a)) :
    BeginsOn lines (x >>= next) where
  mem {tokens e rest} hr hrest := by
    obtain ⟨a, middle, hfirst, hr⟩ := bind_eq_some.mp hr
    have hmiddle : middle <:+ tokens := Shortens.suffix hfirst
    -- what is left behind all of it is left behind the first reader, too
    have hne : middle ≠ [] := by
      rintro rfl
      exact hrest (List.suffix_nil.mp ((hshort a).suffix hr))
    rcases (hnext a).mem hr hrest with hmem | hmem
    · rcases List.mem_cons.mp hmem with hline | hmem
      · rw [hline]
        exact hx hfirst hne
      · exact .inl hmem
    · exact .inr (hmem.of_suffix hmiddle)

/-- A reader that notes the line of its first token and hands it on. -/
theorem beginsOn_line {next : Nat → Reading PlacedExpr} (hshort : ∀ line, Shortens (next line))
    (hnext : ∀ line, BeginsOn (line :: lines) (next line)) : BeginsOn lines (line >>= next) := by
  refine beginsOn_bind (fun {tokens line rest} hline hrest => ?_) hshort hnext
  cases hline
  cases tokens with
  | nil => exact absurd rfl hrest
  | cons p tokens => exact .inr ⟨p, List.mem_cons_self, rfl⟩

instance {next : Nat → Reading PlacedExpr} [∀ line, Shortens (next line)]
    [∀ line, BeginsOn (line :: lines) (next line)] : BeginsOn lines (line >>= next) :=
  beginsOn_line inferInstance inferInstance

instance {next : PlacedExpr → Reading PlacedExpr} [hr : BeginsOn lines r] [Shortens r]
    [hshort : ∀ e, Shortens (next e)] [hnext : ∀ e, BeginsOn (e.line :: lines) (next e)] :
    BeginsOn lines (r >>= next) :=
  beginsOn_bind hr.mem hshort hnext

end BeginsOn

/-- All readers of placed expressions keep to the lines of their tokens. -/
class ExpressionsBegin (n : Nat) : Prop where
  expression (lines : List Nat) : BeginsOn lines (expression n)
  disjunction (lines : List Nat) : BeginsOn lines (disjunction n)
  inversion (lines : List Nat) : BeginsOn lines (inversion n)
  comparison (lines : List Nat) : BeginsOn lines (comparison n)
  arithmetic (lines : List Nat) : BeginsOn lines (arithmetic n)
  primary (lines : List Nat) : BeginsOn lines (primary n)
  trailers (lines : List Nat) (line : Nat) (operand : PlacedExpr) [IsOneOf line lines]
    [IsOneOf operand.line lines] : BeginsOn lines (trailers line operand n)
  atom (lines : List Nat) : BeginsOn lines (atom n)
  parenthesized (lines : List Nat) (line : Nat) [IsOneOf line lines] :
    BeginsOn lines (parenthesized line n)
  listed (lines : List Nat) (line : Nat) [IsOneOf line lines] : BeginsOn lines (listed line n)
  braced (lines : List Nat) (line : Nat) [IsOneOf line lines] : BeginsOn lines (braced line n)
  element (lines : List Nat) : BeginsOn lines (element n)
  named (lines : List Nat) : BeginsOn lines (named n)
  yielded (lines : List Nat) : BeginsOn lines (yielded n)

attribute [instance] ExpressionsBegin.expression ExpressionsBegin.disjunction
  ExpressionsBegin.inversion ExpressionsBegin.comparison ExpressionsBegin.arithmetic
  ExpressionsBegin.primary ExpressionsBegin.trailers ExpressionsBegin.atom
  ExpressionsBegin.parenthesized ExpressionsBegin.listed ExpressionsBegin.braced
  ExpressionsBegin.element ExpressionsBegin.named ExpressionsBegin.yielded

/-- Without any descent left, no expression is read. -/
theorem expressionsBegin_zero : ExpressionsBegin 0 := by
  constructor
  all_goals intros
  all_goals exact inferInstanceAs (BeginsOn _ failure)

/-- One level of the descent. Only readers whose expressions are kept with a line are among them. -/
theorem expressionsBegin_succ (n : Nat) [ExpressionsBegin n] : ExpressionsBegin (n + 1) where
  expression lines := by
    unfold expression
    infer_instance
  disjunction lines := by
    unfold disjunction
    infer_instance
  inversion lines := by
    unfold inversion
    infer_instance
  comparison lines := by
    unfold comparison
    infer_instance
  arithmetic lines := by
    unfold arithmetic
    infer_instance
  primary lines := by
    unfold primary
    infer_instance
  trailers lines line operand _ _ := by
    unfold trailers
    infer_instance
  atom lines := by
    unfold atom
    refine beginsOn_line (fun line => ?_) fun line => ?_
    · exact shortens_bind fun token => by split <;> infer_instance
    · exact beginsOn_behind fun token => by split <;> infer_instance
  parenthesized lines line _ := by
    unfold parenthesized
    infer_instance
  listed lines line _ := by
    unfold listed
    infer_instance
  braced lines line _ := by
    unfold braced
    dsimp only
    infer_instance
  element lines := by
    unfold element
    infer_instance
  named lines := by
    unfold named
    infer_instance
  yielded lines := by
    unfold yielded
    dsimp only
    infer_instance

instance (n : Nat) : ExpressionsBegin n := by
  induction n with
  | zero => exact expressionsBegin_zero
  | succ n _ => exact expressionsBegin_succ n

/-! ## Decorators -/

/-- The token that comes next is the first one. -/
theorem exists_of_next {token : Token} {tokens : List Placed}
    (h : (tokens.head?.map (·.token) == some token) = true) :
    ∃ p, p.token = token ∧ tokens = p :: tokens.drop 1 := by
  cases tokens with
  | nil => cases h
  | cons p rest => exact ⟨p, by simpa using h, rfl⟩

/-- A token that has to come is taken if it does. -/
theorem exists_of_expectToken {token : Token} {tokens rest : List Placed} {u : Unit}
    (h : expectToken token tokens = some (u, rest)) :
    ∃ p, p.token = token ∧ tokens = p :: rest := by
  obtain ⟨found, same, hpeek, h⟩ := bind_eq_some.mp h
  cases hpeek
  split at h
  next hnext =>
    cases h
    exact exists_of_next hnext
  next => cases h

/-- What is applied to a function begins on lines of its own tokens. -/
theorem isLineOf_of_mem_decorators {n : Nat} {tokens rest : List Placed}
    {applied : List PlacedExpr} (h : decorators n tokens = some (applied, rest)) :
    ∀ d ∈ applied, IsLineOf tokens d.line := by
  induction n generalizing tokens applied with
  | zero => cases h
  | succ n ih =>
    unfold decorators at h
    obtain ⟨accepted, behind, haccept, h⟩ := bind_eq_some.mp h
    have hbehind : behind <:+ tokens := Shortens.suffix haccept
    split at h
    · -- One is read, then the end of its line, then the others.
      obtain ⟨first, ended, hfirst, h⟩ := bind_eq_some.mp h
      obtain ⟨_, others, hend, h⟩ := bind_eq_some.mp h
      obtain ⟨more, left, hmore, h⟩ := bind_eq_some.mp h
      cases h
      obtain ⟨p, -, rfl⟩ := exists_of_expectToken hend
      have hothers : others <:+ tokens :=
        (List.suffix_cons p others).trans ((Shortens.suffix hfirst).trans hbehind)
      refine List.forall_mem_cons.mpr ⟨?_, fun d hd => (ih hmore d hd).of_suffix hothers⟩
      -- No line was noted before, and the end of the line is still there.
      have hline : first.line ∈ [] ∨ IsLineOf behind first.line :=
        BeginsOn.mem hfirst (List.cons_ne_nil _ _)
      exact IsLineOf.of_suffix (hline.resolve_left List.not_mem_nil) hbehind
    · cases h
      exact fun d hd => absurd hd List.not_mem_nil

end RouteAtlas.Script
