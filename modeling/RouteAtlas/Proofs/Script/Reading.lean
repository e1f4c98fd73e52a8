import Mathlib.Data.List.Infix
import RouteAtlas.Script.StatementReader

/-!
# What readers leave

A reader takes tokens from the front only: what it leaves is an end of what it was given
(`Shortens`). This is kept by all the ways in which readers are put together, so it is a class, and
for a reader that is put together of others it is found by following its text. The readers of one
grammar call each other; for them it is an induction on the bound on the descent, with one class for
all readers of a grammar (`ReadsExpressions`, `ReadsPatterns`).

What is gained by a class is that no proof has to repeat the text of a reader. A reader is unfolded
once, and the instances are found in the order in which it is written; only where it chooses between
readers by the kind of a token is the choice split by hand. The price is the number of steps in one
search for an instance, which is that of the reader and may be large.

Nothing is said of what a reader finds. That is left to the modules that ask for it, and all of them
ask for this first: where the tokens stand that are left.
-/

namespace RouteAtlas.Script

-- an instance for a reader has as many steps as the reader has
set_option synthInstance.maxSize 4000

/-- Whatever a reader comes to, what it leaves is an end of its tokens. -/
class Shortens {α : Type} (r : Reading α) : Prop where
  suffix {tokens : List Placed} {a : α} {rest : List Placed} :
    r tokens = some (a, rest) → rest <:+ tokens

namespace Reading

section Parts

variable {α β : Type} {r other : Reading α} {next : α → Reading β} {tokens rest : List Placed}

/-- One reader after the other. -/
theorem bind_eq_some {b : β} :
    (r >>= next) tokens = some (b, rest) ↔
      ∃ a middle, r tokens = some (a, middle) ∧ next a middle = some (b, rest) := by
  show (r tokens).bind (fun found => next found.1 found.2) = some (b, rest) ↔ _
  rw [Option.bind_eq_some_iff]
  constructor
  · rintro ⟨⟨a, middle⟩, hr, hnext⟩
    exact ⟨a, middle, hr, hnext⟩
  · rintro ⟨a, middle, hr, hnext⟩
    exact ⟨(a, middle), hr, hnext⟩

instance (a : α) : Shortens (pure a : Reading α) where
  suffix h := by
    cases h
    exact List.suffix_rfl

instance : Shortens (failure : Reading α) where
  suffix h := by cases h

/-- One reader behind another, whatever the first one hands on. -/
theorem shortens_bind [Shortens r] (hnext : ∀ a, Shortens (next a)) : Shortens (r >>= next) where
  suffix h := by
    obtain ⟨a, middle, hr, hrest⟩ := bind_eq_some.mp h
    exact ((hnext a).suffix hrest).trans (Shortens.suffix hr)

instance [Shortens r] [∀ a, Shortens (next a)] : Shortens (r >>= next) :=
  shortens_bind fun _ => inferInstance

instance {c : Prop} [Decidable c] [Shortens r] [Shortens other] :
    Shortens (if c then r else other) := by
  split
  · infer_instance
  · infer_instance

instance [hr : Shortens r] [hother : Shortens other] : Shortens (r <|> other) where
  suffix {tokens a rest} h := by
    have h : (r tokens <|> other tokens) = some (a, rest) := h
    cases hfirst : r tokens with
    | some found =>
      rw [hfirst] at h
      cases h
      exact hr.suffix hfirst
    | none =>
      rw [hfirst] at h
      exact hother.suffix h

end Parts

/-! ## Tokens -/

instance : Shortens peek? where
  suffix h := by
    cases h
    exact List.suffix_rfl

instance : Shortens line where
  suffix h := by
    cases h
    exact List.suffix_rfl

instance : Shortens skip where
  suffix h := by
    cases h
    exact List.drop_suffix 1 _

instance (signs : List String) : Shortens (seesAnySecond signs) where
  suffix h := by
    cases h
    exact List.suffix_rfl

instance (p : Token → Bool) : Shortens (takeWhile p) where
  suffix h := by
    cases h
    exact List.dropWhile_suffix _

instance (r : Reading Unit) [hr : Shortens r] : Shortens (attempt r) where
  suffix {tokens a rest} h := by
    unfold attempt at h
    split at h
    next hsome =>
      cases h
      exact hr.suffix hsome
    next =>
      cases h
      exact List.suffix_rfl

instance (sign : String) : Shortens (sees sign) := by
  unfold sees
  infer_instance

instance (signs : List String) : Shortens (seesAny signs) := by
  unfold seesAny
  refine shortens_bind fun token => ?_
  split <;> infer_instance

instance (sign : String) : Shortens (seesSecond sign) := by
  unfold seesSecond
  infer_instance

instance (sign : String) : Shortens (accept sign) := by
  unfold accept
  infer_instance

instance (condition : Bool) (sign : String) : Shortens (acceptIf condition sign) := by
  unfold acceptIf
  infer_instance

instance (signs : List String) : Shortens (acceptAny signs) := by
  unfold acceptAny
  infer_instance

instance (token : Token) : Shortens (expectToken token) := by
  unfold expectToken
  infer_instance

instance (sign : String) : Shortens (expect sign) := by
  unfold expect
  infer_instance

instance : Shortens name := by
  unfold name
  refine shortens_bind fun token => ?_
  split <;> infer_instance

instance (word : String) : Shortens (seesWord word) := by
  unfold seesWord
  refine shortens_bind fun token => ?_
  split <;> infer_instance

instance (word : String) : Shortens (expectWord word) := by
  unfold expectWord
  infer_instance

instance (condition : Bool) : Shortens (check condition) := by
  unfold check
  infer_instance

instance (sign : String) : Shortens (seesNameBefore sign) := by
  unfold seesNameBefore
  refine shortens_bind fun token => ?_
  split <;> infer_instance

instance : Shortens startsNothing := by
  unfold startsNothing
  refine shortens_bind fun token => ?_
  split <;> infer_instance

instance {α : Type} (ended : Reading Bool) (item : Reading α) [Shortens ended] [Shortens item]
    (n : Nat) : Shortens (items ended item n) := by
  induction n with
  | zero =>
    unfold items
    infer_instance
  | succ n ih =>
    unfold items
    infer_instance

instance {α : Type} (item : Reading α) [Shortens item] (n : Nat) : Shortens (list item n) := by
  induction n with
  | zero =>
    unfold list
    infer_instance
  | succ n ih =>
    unfold list
    infer_instance

end Reading

open Reading

/-! ## Expressions -/

instance : Shortens acceptComparison := by
  unfold acceptComparison
  infer_instance

instance : Shortens quotedConstant := by
  unfold quotedConstant
  refine shortens_bind fun quoted => ?_
  split <;> infer_instance

/-- All readers of expressions leave an end of their tokens. -/
class ReadsExpressions (n : Nat) : Prop where
  expression : Shortens (expression n)
  disjunction : Shortens (disjunction n)
  inversion : Shortens (inversion n)
  comparison : Shortens (comparison n)
  arithmetic : Shortens (arithmetic n)
  primary : Shortens (primary n)
  trailers (line : Nat) (operand : PlacedExpr) : Shortens (trailers line operand n)
  atom : Shortens (atom n)
  parenthesized (line : Nat) : Shortens (parenthesized line n)
  listed (line : Nat) : Shortens (listed line n)
  braced (line : Nat) : Shortens (braced line n)
  entry : Shortens (entry n)
  element : Shortens (element n)
  named : Shortens (named n)
  callArguments : Shortens (callArguments n)
  argument : Shortens (argument n)
  slice : Shortens (slice n)
  bound : Shortens (bound n)
  parameter (annotated : Bool) : Shortens (parameter annotated n)
  clauses : Shortens (clauses n)
  conditions : Shortens (conditions n)
  targets : Shortens (targets n)
  target : Shortens (target n)
  yielded : Shortens (yielded n)
  expressions : Shortens (expressions n)
  starred : Shortens (starred n)

attribute [instance] ReadsExpressions.expression ReadsExpressions.disjunction
  ReadsExpressions.inversion ReadsExpressions.comparison ReadsExpressions.arithmetic
  ReadsExpressions.primary ReadsExpressions.trailers ReadsExpressions.atom
  ReadsExpressions.parenthesized ReadsExpressions.listed ReadsExpressions.braced
  ReadsExpressions.entry ReadsExpressions.element ReadsExpressions.named
  ReadsExpressions.callArguments ReadsExpressions.argument ReadsExpressions.slice
  ReadsExpressions.bound ReadsExpressions.parameter ReadsExpressions.clauses
  ReadsExpressions.conditions ReadsExpressions.targets ReadsExpressions.target
  ReadsExpressions.yielded ReadsExpressions.expressions ReadsExpressions.starred

/-- Without any descent left, no expression is read. -/
theorem readsExpressions_zero : ReadsExpressions 0 := by
  constructor
  all_goals intros
  all_goals exact inferInstanceAs (Shortens failure)

/-- One level of the descent, reader by reader in the order of the grammar. -/
theorem readsExpressions_succ (n : Nat) [ReadsExpressions n] : ReadsExpressions (n + 1) where
  expression := by
    unfold expression
    infer_instance
  disjunction := by
    unfold disjunction
    infer_instance
  inversion := by
    unfold inversion
    infer_instance
  comparison := by
    unfold comparison
    infer_instance
  arithmetic := by
    unfold arithmetic
    infer_instance
  primary := by
    unfold primary
    infer_instance
  trailers line operand := by
    unfold trailers
    infer_instance
  atom := by
    unfold atom
    refine shortens_bind fun line => shortens_bind fun token => ?_
    split <;> infer_instance
  parenthesized line := by
    unfold parenthesized
    infer_instance
  listed line := by
    unfold listed
    infer_instance
  braced line := by
    unfold braced
    dsimp only
    infer_instance
  entry := by
    unfold entry
    infer_instance
  element := by
    unfold element
    infer_instance
  named := by
    unfold named
    infer_instance
  callArguments := by
    unfold callArguments
    refine shortens_bind fun found => shortens_bind fun generated => ?_
    split
    · split <;> infer_instance
    · infer_instance
  argument := by
    unfold argument
    infer_instance
  slice := by
    unfold slice
    infer_instance
  bound := by
    unfold bound
    infer_instance
  parameter annotated := by
    unfold parameter
    dsimp only
    infer_instance
  clauses := by
    unfold clauses
    infer_instance
  conditions := by
    unfold conditions
    infer_instance
  targets := by
    unfold targets
    infer_instance
  target := by
    unfold target
    infer_instance
  yielded := by
    unfold yielded
    infer_instance
  expressions := by
    unfold expressions
    infer_instance
  starred := by
    unfold starred
    infer_instance

instance (n : Nat) : ReadsExpressions n := by
  induction n with
  | zero => exact readsExpressions_zero
  | succ n _ => exact readsExpressions_succ n

/-! ## Patterns -/

namespace Case

instance : Shortens capture := by
  unfold capture
  infer_instance

instance : Shortens rest := by
  unfold rest
  infer_instance

instance : Shortens number := by
  unfold number
  refine shortens_bind fun token => ?_
  split <;> infer_instance

instance : Shortens numeral := by
  unfold numeral
  infer_instance

instance (n : Nat) : Shortens (dotted n) := by
  induction n with
  | zero =>
    unfold dotted
    infer_instance
  | succ n ih =>
    unfold dotted
    infer_instance

instance (n : Nat) : Shortens (key n) := by
  unfold key
  refine shortens_bind fun token => ?_
  split <;> infer_instance

/-- All readers of patterns leave an end of their tokens. -/
class ReadsPatterns (n : Nat) : Prop where
  pattern : Shortens (pattern n)
  alternatives : Shortens (alternatives n)
  closed : Shortens (closed n)
  item : Shortens (item n)
  sequence (closing : String) : Shortens (sequence closing n)
  entries : Shortens (entries n)
  arguments : Shortens (arguments n)
  argument : Shortens (argument n)

attribute [instance] ReadsPatterns.pattern ReadsPatterns.alternatives ReadsPatterns.closed
  ReadsPatterns.item ReadsPatterns.sequence ReadsPatterns.entries ReadsPatterns.arguments
  ReadsPatterns.argument

/-- Without any descent left, no pattern is read. -/
theorem readsPatterns_zero : ReadsPatterns 0 := by
  constructor
  all_goals intros
  all_goals exact inferInstanceAs (Shortens failure)

/-- One level of the descent. The readers of patterns call those of expressions, but not the other
way. -/
theorem readsPatterns_succ (n : Nat) [ReadsPatterns n] : ReadsPatterns (n + 1) where
  pattern := by
    unfold pattern
    infer_instance
  alternatives := by
    unfold alternatives
    infer_instance
  closed := by
    unfold closed
    refine shortens_bind fun token => ?_
    split <;> infer_instance
  item := by
    unfold item
    infer_instance
  sequence closing := by
    unfold sequence
    dsimp only
    infer_instance
  entries := by
    unfold entries
    infer_instance
  arguments := by
    unfold arguments
    infer_instance
  argument := by
    unfold argument
    infer_instance

instance (n : Nat) : ReadsPatterns n := by
  induction n with
  | zero => exact readsPatterns_zero
  | succ n _ => exact readsPatterns_succ n

instance (n : Nat) : Shortens (patterns n) := by
  unfold patterns
  infer_instance

end Case

/-! ## Statements -/

instance (n : Nat) : Shortens (assigned n) := by
  unfold assigned
  infer_instance

instance (line : Nat) (targets : List Expr) (target : Expr) (n : Nat) :
    Shortens (assignment line targets target n) := by
  induction n generalizing targets target with
  | zero =>
    unfold assignment
    infer_instance
  | succ n ih =>
    unfold assignment
    infer_instance

instance (n : Nat) : Shortens (expressionStatement n) := by
  unfold expressionStatement
  infer_instance

instance (n : Nat) : Shortens (dottedName n) := by
  induction n with
  | zero =>
    unfold dottedName
    infer_instance
  | succ n ih =>
    unfold dottedName
    infer_instance

instance : Shortens newName := by
  unfold newName
  infer_instance

instance (n : Nat) : Shortens (importedNames n) := by
  unfold importedNames
  infer_instance

instance (n : Nat) : Shortens (importFrom n) := by
  unfold importFrom
  dsimp only
  infer_instance

instance (keyword : String) (n : Nat) : Shortens (keywordStatement keyword n) := by
  unfold keywordStatement
  split <;> infer_instance

instance (n : Nat) : Shortens (simpleStatement n) := by
  unfold simpleStatement
  refine shortens_bind fun token => ?_
  split <;> infer_instance

instance (n : Nat) : Shortens (contextItem n) := by
  unfold contextItem
  infer_instance

instance (n : Nat) : Shortens (contextItems n) := by
  unfold contextItems
  infer_instance

instance (n : Nat) : Shortens (subjectLine n) := by
  unfold subjectLine
  dsimp only
  infer_instance

instance (n : Nat) : Shortens (functionHead n) := by
  unfold functionHead
  dsimp only
  infer_instance

instance (n : Nat) : Shortens (classHead n) := by
  unfold classHead
  dsimp only
  infer_instance

instance (n : Nat) : Shortens (loopHead n) := by
  unfold loopHead
  infer_instance

instance (n : Nat) : Shortens (handlerHead n) := by
  unfold handlerHead
  dsimp only
  infer_instance

instance (n : Nat) : Shortens (decorators n) := by
  induction n with
  | zero =>
    unfold decorators
    infer_instance
  | succ n ih =>
    unfold decorators
    infer_instance

end RouteAtlas.Script
