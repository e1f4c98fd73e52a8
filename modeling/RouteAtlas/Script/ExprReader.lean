import RouteAtlas.Script.Syntax
import RouteAtlas.Script.Reading

/-!
# Reading expressions

The grammar of expressions by recursive descent. No operation is looked into, so operators of all
strengths are read alike; what counts is where each kind of operand may stand. Each function takes a
bound on the depth of the descent first.

Targets of loops are read as expressions and then checked for what they are.
-/

namespace RouteAtlas.Script

open Reading

/-! ## Operators and constants -/

/-- The operators between two arithmetic operands. -/
def arithmeticOperators : List String :=
  ["|", "^", "&", "<<", ">>", "+", "-", "*", "/", "//", "%", "@", "**"]

/-- The operators of one sign that compare. -/
def comparisonOperators : List String := ["==", "!=", "<", "<=", ">", ">=", "in"]

/-- Takes an operator that compares, if there is one. -/
def acceptComparison : Reading Bool := do
  if ← acceptAny comparisonOperators then pure true
  else if ← accept "is" then
    let _ ← accept "not"
    pure true
  else if ← accept "not" then
    expect "in"
    pure true
  else pure false

/-- A sign before an arithmetic operand. -/
def isSignBefore : Token → Bool
  | .mark sign => ["+", "-", "~"].contains sign
  | _ => false

/-- A constant between quotes. -/
def isQuoted : Token → Bool
  | .text _ | .bytes | .template _ => true
  | _ => false

/-- Neighbouring constants are one constant, if there are any. Bytes do not mix with text, and a
template among texts makes all of it a template. -/
def joined? (quoted : List Token) : Option Expr :=
  if quoted.isEmpty then none
  else if quoted.contains .bytes then
    if quoted.all (· == .bytes) then some .operation else none
  else
    let texts := quoted.filterMap fun
      | .text value => some value
      | _ => none
    some (if texts.length = quoted.length then .text texts.flatten else .operation)

/-- Neighbouring constants between quotes. -/
def quotedConstant : Reading Expr := do
  match joined? (← takeWhile isQuoted) with
  | some e => pure e
  | none => failure

/-- The expression takes what remains. -/
def PlacedExpr.isUnpacked (e : PlacedExpr) : Bool :=
  match e.expr with
  | .unpacked _ => true
  | _ => false

/-! ## Expressions -/

mutual

/-- An expression: a function, a conditional expression or an operation. -/
def expression : Nat → Reading PlacedExpr
  | 0 => failure
  | n + 1 => do
    let line ← line
    if ← accept "lambda" then
      let found ← items (sees ":") (parameter false n) n
      check (Parameter.inOrder false false false found)
      expect ":"
      let _ ← expression n
      pure ⟨line, .operation⟩
    else
      let value ← disjunction n
      if ← accept "if" then
        let _ ← disjunction n
        expect "else"
        let _ ← expression n
        pure ⟨line, .operation⟩
      else pure value
termination_by structural n => n

/-- Conditions with `and` or `or` between them. -/
def disjunction : Nat → Reading PlacedExpr
  | 0 => failure
  | n + 1 => do
    let line ← line
    let first ← inversion n
    if ← acceptAny ["and", "or"] then
      let _ ← disjunction n
      pure ⟨line, .operation⟩
    else pure first
termination_by structural n => n

/-- A condition, perhaps negated. -/
def inversion : Nat → Reading PlacedExpr
  | 0 => failure
  | n + 1 => do
    let line ← line
    if ← accept "not" then
      let _ ← inversion n
      pure ⟨line, .operation⟩
    else comparison n
termination_by structural n => n

/-- Arithmetic expressions with comparisons between them. -/
def comparison : Nat → Reading PlacedExpr
  | 0 => failure
  | n + 1 => do
    let line ← line
    let first ← arithmetic n
    if ← acceptComparison then
      let _ ← comparison n
      pure ⟨line, .operation⟩
    else pure first
termination_by structural n => n

/-- Operands with arithmetic operators between them and signs before them. -/
def arithmetic : Nat → Reading PlacedExpr
  | 0 => failure
  | n + 1 => do
    let line ← line
    let signs ← takeWhile isSignBefore
    let awaited ← accept "await"
    let operand ← primary n
    if ← acceptAny arithmeticOperators then
      let _ ← arithmetic n
      pure ⟨line, .operation⟩
    else if signs.isEmpty && !awaited then pure operand
    else pure ⟨line, .operation⟩
termination_by structural n => n

/-- An operand with the members, items and calls taken of it. -/
def primary : Nat → Reading PlacedExpr
  | 0 => failure
  | n + 1 => do
    let line ← line
    let first ← atom n
    trailers line first n
termination_by structural n => n

/-- What is taken of an operand that began on the line. -/
def trailers (line : Nat) (operand : PlacedExpr) : Nat → Reading PlacedExpr
  | 0 => failure
  | n + 1 => do
    if ← accept "." then
      let field ← name
      trailers line ⟨line, .member operand.expr field.text⟩ n
    else if ← accept "(" then
      let found ← callArguments n
      trailers line ⟨line, .ofCall operand.expr found⟩ n
    else if ← accept "[" then
      let found ← items (sees "]") (slice n) n
      check !found.isEmpty
      expect "]"
      trailers line ⟨line, .item⟩ n
    else pure operand
termination_by structural n => n

/-- A name, a constant, or something between brackets. -/
def atom : Nat → Reading PlacedExpr
  | 0 => failure
  | n + 1 => do
    let line ← line
    match ← peek? with
    | some (.name id _) =>
      skip
      pure ⟨line, .name id.text⟩
    | some (.number _) =>
      skip
      pure ⟨line, .operation⟩
    | some (.mark sign) =>
      skip
      if sign == "(" then parenthesized line n
      else if sign == "[" then listed line n
      else if sign == "\x7b" then braced line n
      else
        check (["...", "None", "True", "False"].contains sign)
        pure ⟨line, .operation⟩
    | _ =>
      let constant ← quotedConstant
      pure ⟨line, constant⟩
termination_by structural n => n

/-- What follows an opening parenthesis: a tuple, a generator or an expression. -/
def parenthesized (line : Nat) : Nat → Reading PlacedExpr
  | 0 => failure
  | n + 1 => do
    if ← accept ")" then pure ⟨line, .display .tuple []⟩
    else if ← sees "yield" then
      let value ← yielded n
      expect ")"
      pure value
    else
      let first ← element n
      if ← accept "," then
        let more ← items (sees ")") (element n) n
        expect ")"
        pure ⟨line, .display .tuple (first.expr :: more.map (·.expr))⟩
      else
        check !first.isUnpacked
        if ← seesAny ["for", "async"] then
          clauses n
          expect ")"
          pure ⟨line, .operation⟩
        else
          expect ")"
          pure first
termination_by structural n => n

/-- What follows an opening bracket: a list, given by its items or by clauses. -/
def listed (line : Nat) : Nat → Reading PlacedExpr
  | 0 => failure
  | n + 1 => do
    let found ← items (sees "]") (element n) n
    if ← seesAny ["for", "async"] then
      check (found.length == 1 && !found.any (·.isUnpacked))
      clauses n
      expect "]"
      pure ⟨line, .operation⟩
    else
      expect "]"
      pure ⟨line, .display .list (found.map (·.expr))⟩
termination_by structural n => n

/-- What follows an opening brace: a mapping or a set, given by its items or by clauses. -/
def braced (line : Nat) : Nat → Reading PlacedExpr
  | 0 => failure
  | n + 1 => do
    if ← seesAny ["**", "\x7d"] then
      let _ ← items (sees "\x7d") (entry n) n
      expect "\x7d"
      pure ⟨line, .operation⟩
    else
      let assigned ← seesNameBefore ":="
      let first ← element n
      let clear := !first.isUnpacked
      if ← accept ":" then
        check (clear && !assigned)
        let _ ← expression n
        if ← seesAny ["for", "async"] then clauses n
        else if ← accept "," then
          let _ ← items (sees "\x7d") (entry n) n
        expect "\x7d"
        pure ⟨line, .operation⟩
      else if ← seesAny ["for", "async"] then
        check clear
        clauses n
        expect "\x7d"
        pure ⟨line, .operation⟩
      else
        let more ← (do
          if ← accept "," then items (sees "\x7d") (element n) n else pure [])
        expect "\x7d"
        pure ⟨line, .display .set (first.expr :: more.map (·.expr))⟩
termination_by structural n => n

/-- An entry of a mapping. -/
def entry : Nat → Reading Unit
  | 0 => failure
  | n + 1 => do
    if ← accept "**" then
      let _ ← arithmetic n
    else
      let _ ← expression n
      expect ":"
      let _ ← expression n
termination_by structural n => n

/-- An item of a display. -/
def element : Nat → Reading PlacedExpr
  | 0 => failure
  | n + 1 => do
    let line ← line
    if ← accept "*" then
      let inner ← arithmetic n
      pure ⟨line, .unpacked inner.expr⟩
    else named n
termination_by structural n => n

/-- An expression whose value may get a name. -/
def named : Nat → Reading PlacedExpr
  | 0 => failure
  | n + 1 => do
    let line ← line
    if ← seesNameBefore ":=" then
      skip
      skip
      let _ ← expression n
      pure ⟨line, .operation⟩
    else expression n
termination_by structural n => n

/-- What follows the opening parenthesis of a call. -/
def callArguments : Nat → Reading (List Argument)
  | 0 => failure
  | n + 1 => do
    let found ← items (sees ")") (argument n) n
    if ← seesAny ["for", "async"] then
      match found with
      | [.positional _] =>
        clauses n
        expect ")"
        pure [.positional .operation]
      | _ => failure
    else
      expect ")"
      check (Argument.inOrder found)
      pure found
termination_by structural n => n

/-- What is given to a call. -/
def argument : Nat → Reading Argument
  | 0 => failure
  | n + 1 => do
    if ← accept "**" then
      let value ← expression n
      pure (.mapping value.expr)
    else if ← accept "*" then
      let value ← expression n
      pure (.unpacked value.expr)
    else if ← seesNameBefore "=" then
      let keyword ← name
      skip
      let value ← expression n
      pure (.keyword keyword.text value.expr)
    else
      let value ← named n
      pure (.positional value.expr)
termination_by structural n => n

/-- An index, or a range with up to three bounds that may be missing. -/
def slice : Nat → Reading Unit
  | 0 => failure
  | n + 1 => do
    if ← accept "*" then
      let _ ← expression n
    else if ← seesNameBefore ":=" then
      let _ ← named n
    else
      let missing ← seesAny [":", ",", "]"]
      bound n
      if ← accept ":" then
        bound n
        if ← accept ":" then bound n
      else check !missing
termination_by structural n => n

/-- A bound of a range, which may be missing. -/
def bound : Nat → Reading Unit
  | 0 => failure
  | n + 1 => do
    if ← seesAny [":", ",", "]"] then pure ()
    else
      let _ ← expression n
termination_by structural n => n

/-- A parameter of a function, which may say what it takes if parameters are annotated. -/
def parameter (annotated : Bool) : Nat → Reading Parameter
  | 0 => failure
  | n + 1 => do
    if ← accept "/" then pure .positionalEnd
    else if ← accept "**" then
      let _ ← name
      if ← acceptIf annotated ":" then
        let _ ← expression n
      pure .restMapping
    else if ← accept "*" then
      if ← sees "," then pure .keywordStart
      else
        let _ ← name
        if ← acceptIf annotated ":" then
          let _ ← starred n
        pure .restItems
    else
      let _ ← name
      if ← acceptIf annotated ":" then
        let _ ← expression n
      if ← accept "=" then
        let _ ← expression n
        pure (.plain true)
      else pure (.plain false)
termination_by structural n => n

/-- The clauses of a generator: loops with conditions. -/
def clauses : Nat → Reading Unit
  | 0 => failure
  | n + 1 => do
    let _ ← accept "async"
    expect "for"
    targets n
    expect "in"
    let _ ← disjunction n
    conditions n
    if ← seesAny ["for", "async"] then clauses n
termination_by structural n => n

/-- The conditions of a clause. -/
def conditions : Nat → Reading Unit
  | 0 => failure
  | n + 1 => do
    if ← accept "if" then
      let _ ← disjunction n
      conditions n
termination_by structural n => n

/-- The targets of a loop. -/
def targets : Nat → Reading Unit
  | 0 => failure
  | n + 1 => do
    let found ← items (sees "in") (target n) n
    check (!found.isEmpty && Expr.areTargets found)
termination_by structural n => n

/-- A target, which is checked later. -/
def target : Nat → Reading Expr
  | 0 => failure
  | n + 1 => do
    if ← accept "*" then
      let inner ← arithmetic n
      pure (.unpacked inner.expr)
    else
      let e ← arithmetic n
      pure e.expr
termination_by structural n => n

/-- What a generator hands out. -/
def yielded : Nat → Reading PlacedExpr
  | 0 => failure
  | n + 1 => do
    let line ← line
    expect "yield"
    if ← accept "from" then
      let _ ← expression n
    else if ← startsNothing then pure ()
    else
      let _ ← expressions n
    pure ⟨line, .operation⟩
termination_by structural n => n

/-- Expressions with commas between them, which are a tuple. -/
def expressions : Nat → Reading PlacedExpr
  | 0 => failure
  | n + 1 => do
    let line ← line
    let first ← starred n
    if ← accept "," then
      let more ← items startsNothing (starred n) n
      pure ⟨line, .display .tuple (first.expr :: more.map (·.expr))⟩
    else pure first
termination_by structural n => n

/-- An expression, or one that is unpacked. -/
def starred : Nat → Reading PlacedExpr
  | 0 => failure
  | n + 1 => do
    let line ← line
    if ← accept "*" then
      let inner ← arithmetic n
      pure ⟨line, .unpacked inner.expr⟩
    else expression n
termination_by structural n => n

end

end RouteAtlas.Script
