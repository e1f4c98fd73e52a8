import RouteAtlas.Script.Token
import RouteAtlas.Text.CodeText

/-!
# The syntax of a script

An expression is kept only as far as routes and the rules on assignment depend on it: names,
attributes, calls, text constants, displays of items. Everything else is an operation that nothing
looks into.

Of the statements only those are told apart that routes depend on: assignments of a value,
functions with what is applied to them, and statements that hold others. The functions of a script
are found in all of its blocks, also in those of other functions and of classes.
-/

/-! ## Expressions -/

namespace RouteAtlas.Script

/-- The brackets around the items of a display. -/
inductive Brackets where
  | list
  | tuple
  | set
  deriving DecidableEq, Repr

/-- An expression. A call has its positional arguments and its keyword arguments, of which those
that unpack a mapping have no keyword. -/
inductive Expr where
  | name (id : Text)
  | member (owner : Expr) (field : Text)
  | item
  | call (callee : Expr) (positional : List Expr) (keywords : List (Option Text × Expr))
  | text (value : CodeText)
  | display (brackets : Brackets) (items : List Expr)
  | unpacked (inner : Expr)
  | operation
  deriving Repr

namespace Expr

/-- Something of its own that can be assigned to: a name, a member or an item. -/
def isPlace : Expr → Bool
  | .name _ | .member _ _ | .item => true
  | _ => false

mutual

/-- A target of an assignment, a loop or a context: a place, a list or tuple of targets, or a target
that takes what remains. -/
def isTarget : Expr → Bool
  | .display .list items | .display .tuple items => areTargets items
  | .unpacked inner => isWhole inner
  | e => e.isPlace

/-- A target that does not take what remains. -/
def isWhole : Expr → Bool
  | .display .list items | .display .tuple items => areTargets items
  | .unpacked _ => false
  | e => e.isPlace

/-- All of the expressions are targets. -/
def areTargets : List Expr → Bool
  | [] => true
  | e :: rest => e.isTarget && areTargets rest

end

mutual

/-- Something that can be deleted: a place, or a list or tuple of such. -/
def isDeletable : Expr → Bool
  | .display .list items | .display .tuple items => areDeletable items
  | e => e.isPlace

/-- All of the expressions can be deleted. -/
def areDeletable : List Expr → Bool
  | [] => true
  | e :: rest => e.isDeletable && areDeletable rest

end

/-- The text of a constant. -/
def text? : Expr → Option CodeText
  | .text value => some value
  | _ => none

end Expr

/-- An expression and the line it begins on. -/
structure PlacedExpr where
  line : Nat
  expr : Expr
  deriving Repr

/-- What is given to a call. -/
inductive Argument where
  | positional (value : Expr)
  | unpacked (value : Expr)
  | keyword (name : Text) (value : Expr)
  | mapping (value : Expr)
  deriving Repr

namespace Argument

/-- The arguments may stand in this order. After a keyword no plain argument may follow, and after
an unpacked mapping only keywords and mappings. -/
def inOrder : List Argument → Bool
  | [] => true
  | .positional _ :: rest | .unpacked _ :: rest => inOrder rest
  | .keyword _ _ :: rest => keywordsInOrder rest
  | .mapping _ :: rest => mappingsInOrder rest
where
  keywordsInOrder : List Argument → Bool
    | [] => true
    | .positional _ :: _ => false
    | .unpacked _ :: rest | .keyword _ _ :: rest => keywordsInOrder rest
    | .mapping _ :: rest => mappingsInOrder rest
  mappingsInOrder : List Argument → Bool
    | [] => true
    | .positional _ :: _ | .unpacked _ :: _ => false
    | .keyword _ _ :: rest | .mapping _ :: rest => mappingsInOrder rest

/-- The expression of a positional argument. -/
def positional? : Argument → Option Expr
  | .positional value => some value
  | .unpacked value => some (.unpacked value)
  | _ => none

/-- The keyword and the expression of any other argument. -/
def keyword? : Argument → Option (Option Text × Expr)
  | .keyword name value => some (some name, value)
  | .mapping value => some (none, value)
  | _ => none

end Argument

/-- A call with arguments. -/
def Expr.ofCall (callee : Expr) (arguments : List Argument) : Expr :=
  .call callee (arguments.filterMap Argument.positional?) (arguments.filterMap Argument.keyword?)

/-- What a function takes. -/
inductive Parameter where
  | plain (hasDefault : Bool)
  /-- The sign after the parameters that have no keyword. -/
  | positionalEnd
  /-- The sign before the parameters that need their keyword. -/
  | keywordStart
  | restItems
  | restMapping
  deriving DecidableEq, Repr

namespace Parameter

/-- Behind the sign or parameter that ends the positional ones. -/
def afterRest : List Parameter → Bool
  | [] | [.restMapping] => true
  | .plain _ :: rest => afterRest rest
  | _ => false

/-- The parameters may stand in this order. Before the remaining items, a parameter with a default
is followed only by such; the sign that ends the parameters without a keyword comes once and not
first; the sign that demands keywords is followed by a parameter. -/
def inOrder (defaulted any ended : Bool) : List Parameter → Bool
  | [] | [.restMapping] => true
  | .plain hasDefault :: rest =>
    (hasDefault || !defaulted) && inOrder hasDefault true ended rest
  | .positionalEnd :: rest => any && !ended && inOrder defaulted any true rest
  | .keywordStart :: .plain _ :: rest => afterRest rest
  | .restItems :: rest => afterRest rest
  | _ => false

end Parameter

end RouteAtlas.Script

/-! ## Statements -/

namespace RouteAtlas.Script

/-- A function, apart from its block: its line, its name, and what is applied to it, in order. -/
structure FunctionHead where
  line : Nat
  name : Name
  decorators : List PlacedExpr
  deriving Repr

/-- A statement. A compound one holds the statements of all its blocks. -/
inductive Statement where
  | assignment (line : Nat) (targets : List Expr) (value : Expr)
  | function (head : FunctionHead) (body : List Statement)
  | compound (body : List Statement)
  | simple
  deriving Repr

mutual

/-- The functions in a statement, each before those in its block. -/
def Statement.functions : Statement → List FunctionHead
  | .function head body => head :: functionsIn body
  | .compound body => functionsIn body
  | .assignment _ _ _ | .simple => []

/-- The functions in a block. -/
def functionsIn : List Statement → List FunctionHead
  | [] => []
  | s :: rest => s.functions ++ functionsIn rest

end

/-- The line on which a function begins, with what is applied to it. -/
def FunctionHead.firstLine (f : FunctionHead) : Nat :=
  f.decorators.foldl (fun line d => min line d.line) f.line

end RouteAtlas.Script
