import RouteAtlas.Script.Scan
import RouteAtlas.Script.StatementReader

/-!
# Reading a script

A text is a script if its tokens form statements and the expressions in its templates are
expressions. Such an expression is read as if it stood in parentheses, and it may hold templates
again, whose expressions are shorter.

The readers of statements and expressions need a bound on the depth of their descent. It is taken
from the number of tokens (`depthFor`), with room for the calls between one token and the next.
-/

namespace RouteAtlas.Script

/-- Why a text is no script. -/
inductive Fault where
  /-- There is a null character in it. -/
  | nullCharacter
  | malformed
  deriving DecidableEq, Repr

/-- What is said of the fault, if it has a text of its own. -/
def Fault.message? : Fault → Option Text
  | .nullCharacter => some "source code string cannot contain null bytes".toList
  | .malformed => none

/-- How deep the descent over a number of tokens can get. -/
def depthFor (tokens : List Placed) : Nat := 16 * (tokens.length + 1)

/-- The texts of the expressions in templates. -/
def embeddedIn (tokens : List Placed) : List Text :=
  tokens.flatMap fun p =>
    match p.token with
    | .template embedded => embedded
    | _ => []

/-- The text is an expression. The number bounds how deep templates are nested in it. -/
def isExpression : Nat → Text → Bool
  | 0, _ => false
  | n + 1, text =>
    match tokens? ('(' :: text ++ [')']) with
    | none => false
    | some tokens =>
      ((expressions (depthFor tokens)).run tokens).isSome
        && (embeddedIn tokens).all (isExpression n)

/-- The statements of a script. -/
def statementsOf? (source : Text) : Option (List Statement) := do
  let tokens ← tokens? source
  let (found, rest) ← (statements (depthFor tokens)).run tokens
  if rest.isEmpty && (embeddedIn tokens).all (isExpression (source.length + 1)) then some found
  else none

/-- Reads a script. -/
def read (source : Text) : Except Fault (List Statement) :=
  if source.contains '\x00' then .error .nullCharacter
  else
    match statementsOf? source with
    | some found => .ok found
    | none => .error .malformed

end RouteAtlas.Script
