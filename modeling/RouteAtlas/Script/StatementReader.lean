import RouteAtlas.Script.PatternReader
import RouteAtlas.Script.Syntax

/-!
# Reading statements

The grammar of statements by recursive descent. A block is either a line of simple statements or
indented lines of any statements. Each function takes a bound on the depth of the descent.

Two statements cannot be told apart by their first tokens. `with` may be followed by parentheses
around its items or by an expression that begins with a parenthesis; the former is tried first, as
far as the colon. `match` is a name unless what follows reads as a subject, a colon and a line end.
-/

namespace RouteAtlas.Script

open Reading

/-! ## Simple statements -/

/-- The operators that assign the result of an operation. -/
def assigningOperators : List String :=
  ["+=", "-=", "*=", "/=", "//=", "%=", "@=", "&=", "|=", "^=", "<<=", ">>=", "**="]

/-- The value of an assignment. -/
def assigned (n : Nat) : Reading PlacedExpr := do
  if ← sees "yield" then yielded n else expressions n

/-- What follows the target of an assignment, where `targets` are those before it, last one first,
if there are more. A target is followed by another one or by the value. -/
def assignment (line : Nat) (targets : List Expr) (target : Expr) : Nat → Reading Statement
  | 0 => failure
  | n + 1 => do
    check target.isTarget
    let generated ← sees "yield"
    let value ← assigned n
    if ← accept "=" then
      check !generated
      assignment line (target :: targets) value.expr n
    else pure (.assignment line (target :: targets).reverse value.expr)

/-- A statement that is an expression or an assignment. -/
def expressionStatement (n : Nat) : Reading Statement := do
  let line ← line
  let first ← expressions n
  if ← accept "=" then assignment line [] first.expr n
  else if ← acceptAny assigningOperators then
    check first.expr.isPlace
    let _ ← assigned n
    pure .simple
  else if ← accept ":" then
    check first.expr.isPlace
    let _ ← expression n
    if ← accept "=" then
      let value ← assigned n
      pure (.assignment line [first.expr] value.expr)
    else pure .simple
  else pure .simple

/-- A dotted name. The number bounds its length. -/
def dottedName : Nat → Reading Unit
  | 0 => failure
  | n + 1 => do
    let _ ← name
    if ← accept "." then dottedName n

/-- A new name for what is imported, if there is one. -/
def newName : Reading Unit := do
  if ← accept "as" then
    let _ ← name

/-- What is imported from a module. -/
def importedNames (n : Nat) : Reading Unit := do
  let imported := do
    let _ ← name
    newName
  if ← accept "*" then pure ()
  else if ← accept "(" then
    let found ← items (sees ")") imported n
    check !found.isEmpty
    expect ")"
  else
    let _ ← list imported n

/-- A dot of a relative module name. -/
def isDot (t : Token) : Bool := t == .mark "." || t == .mark "..."

/-- An import from a module, which is given by dots, by a name or by both. -/
def importFrom (n : Nat) : Reading Unit := do
  let dots ← takeWhile isDot
  if (← sees "import") && !dots.isEmpty then pure () else dottedName n
  expect "import"
  importedNames n

/-- A simple statement that begins with a keyword, behind the keyword. -/
def keywordStatement (keyword : String) (n : Nat) : Reading Unit := do
  match keyword with
  | "pass" | "break" | "continue" => pure ()
  | "return" =>
    if ← startsNothing then pure ()
    else
      let _ ← expressions n
  | "raise" =>
    if ← startsNothing then pure ()
    else
      let _ ← expression n
      if ← accept "from" then
        let _ ← expression n
  | "global" | "nonlocal" =>
    let _ ← list name n
  | "del" =>
    let found ← expressions n
    check found.expr.isDeletable
    check ((← sees ";") || (← peek?) == some .lineEnd)
  | "assert" =>
    let _ ← expression n
    if ← accept "," then
      let _ ← expression n
  | "import" =>
    let _ ← list (do dottedName n; newName) n
  | "from" => importFrom n
  | _ => failure

/-- The keywords that begin a simple statement. -/
def simpleKeywords : List String :=
  ["pass", "break", "continue", "return", "raise", "global", "nonlocal", "del", "assert", "import",
   "from"]

/-- A simple statement. -/
def simpleStatement (n : Nat) : Reading Statement := do
  match ← peek? with
  | some (.mark sign) =>
    if simpleKeywords.contains sign then
      skip
      keywordStatement sign n
      pure .simple
    else if sign == "yield" then
      let _ ← yielded n
      pure .simple
    else expressionStatement n
  | _ => expressionStatement n

/-- Simple statements up to the end of the line. The first argument bounds their number. -/
def simpleLine (depth : Nat) : Nat → Reading (List Statement)
  | 0 => failure
  | n + 1 => do
    let first ← simpleStatement depth
    if ← accept ";" then
      if (← peek?) == some .lineEnd then
        skip
        pure [first]
      else
        let more ← simpleLine depth n
        pure (first :: more)
    else
      expectToken .lineEnd
      pure [first]

/-! ## Heads of compound statements -/

/-- What a context is entered with, and perhaps a target for it. -/
def contextItem (n : Nat) : Reading Unit := do
  let _ ← expression n
  if ← accept "as" then
    let found ← target n
    check found.isTarget
    check (← seesAny [",", ")", ":"])

/-- What contexts are entered with, up to and with the colon. -/
def contextItems (n : Nat) : Reading Unit :=
  (do
    expect "("
    let found ← items (sees ")") (contextItem n) n
    check !found.isEmpty
    expect ")"
    expect ":")
  <|> (do
    let _ ← list (contextItem n) n
    expect ":")

/-- The subject of a comparison with cases, up to and with the end of its line. -/
def subjectLine (n : Nat) : Reading Unit := do
  expectWord "match"
  let first ← element n
  if ← accept "," then
    let _ ← items (sees ":") (element n) n
  else check !first.isUnpacked
  expect ":"
  expectToken .lineEnd

/-- The head of a function behind its keyword: its name. -/
def functionHead (n : Nat) : Reading Name := do
  let id ← name
  expect "("
  let found ← items (sees ")") (parameter true n) n
  check (Parameter.inOrder false false false found)
  expect ")"
  if ← accept "->" then
    let _ ← expression n
  expect ":"
  pure id

/-- The head of a class behind its keyword. -/
def classHead (n : Nat) : Reading Unit := do
  let _ ← name
  if ← accept "(" then
    let found ← items (sees ")") (argument n) n
    check (Argument.inOrder found)
    expect ")"
  expect ":"

/-- The head of a loop over items behind its keyword. -/
def loopHead (n : Nat) : Reading Unit := do
  targets n
  expect "in"
  let _ ← expressions n
  expect ":"

/-- The head of a handler behind its keyword: whether it handles groups. -/
def handlerHead (n : Nat) : Reading Bool := do
  let grouped ← accept "*"
  if grouped || !(← sees ":") then
    let _ ← expression n
    newName
  expect ":"
  pure grouped

/-- What is applied to a function or class, line by line. The number bounds how much it is. -/
def decorators : Nat → Reading (List PlacedExpr)
  | 0 => failure
  | n + 1 => do
    if ← accept "@" then
      let first ← named n
      expectToken .lineEnd
      let more ← decorators n
      pure (first :: more)
    else pure []

/-! ## Blocks and compound statements -/

mutual

/-- A block behind its colon. -/
def block : Nat → Reading (List Statement)
  | 0 => failure
  | n + 1 => do
    if (← peek?) == some .lineEnd then
      skip
      expectToken .indent
      let first ← statement n
      let more ← statements n
      expectToken .dedent
      pure (first ++ more)
    else simpleLine n n
termination_by structural n => n

/-- Statements up to the end of the block or script. -/
def statements : Nat → Reading (List Statement)
  | 0 => failure
  | n + 1 => do
    match ← peek? with
    | none | some .dedent => pure []
    | _ =>
      let first ← statement n
      let more ← statements n
      pure (first ++ more)
termination_by structural n => n

/-- A statement, or a line of simple ones. -/
def statement : Nat → Reading (List Statement)
  | 0 => failure
  | n + 1 => do
    match ← peek? with
    | some (.mark "@") =>
      let applied ← decorators n
      if ← accept "class" then
        classHead n
        compound n
      else function applied n
    | some (.mark "def") => function [] n
    | some (.mark "async") =>
      if ← seesSecond "def" then function [] n
      else
        skip
        if ← accept "with" then
          contextItems n
          compound n
        else
          expect "for"
          loop (loopHead n) n
    | some (.mark "class") =>
      skip
      classHead n
      compound n
    | some (.mark "if") =>
      skip
      branches n
    | some (.mark "while") =>
      skip
      loop (do let _ ← named n; expect ":") n
    | some (.mark "for") =>
      skip
      loop (loopHead n) n
    | some (.mark "try") =>
      skip
      expect ":"
      guarded n
    | some (.mark "with") =>
      skip
      contextItems n
      compound n
    | _ =>
      if ← attempt (subjectLine n) then
        expectToken .indent
        let body ← cases n
        expectToken .dedent
        pure [.compound body]
      else simpleLine n n
termination_by structural n => n

/-- A statement with one block behind its head. -/
def compound : Nat → Reading (List Statement)
  | 0 => failure
  | n + 1 => do
    let body ← block n
    pure [.compound body]
termination_by structural n => n

/-- A function behind what is applied to it. Its line is that of its first keyword. -/
def function (applied : List PlacedExpr) : Nat → Reading (List Statement)
  | 0 => failure
  | n + 1 => do
    let line ← line
    let _ ← accept "async"
    expect "def"
    let id ← functionHead n
    let body ← block n
    pure [.function ⟨line, id, applied⟩ body]
termination_by structural n => n

/-- A loop with a head, and perhaps a block for its regular end. -/
def loop (head : Reading Unit) : Nat → Reading (List Statement)
  | 0 => failure
  | n + 1 => do
    head
    let body ← block n
    let more ← otherwise n
    pure [.compound (body ++ more)]
termination_by structural n => n

/-- A block behind `else`, if there is one. -/
def otherwise : Nat → Reading (List Statement)
  | 0 => failure
  | n + 1 => do
    if ← accept "else" then
      expect ":"
      block n
    else pure []
termination_by structural n => n

/-- A branch behind its keyword, and the branches that follow. -/
def branches : Nat → Reading (List Statement)
  | 0 => failure
  | n + 1 => do
    let _ ← named n
    expect ":"
    let body ← block n
    let more ← (do if ← accept "elif" then branches n else otherwise n)
    pure [.compound (body ++ more)]
termination_by structural n => n

/-- A guarded block with its handlers. Without a handler there is a final block. -/
def guarded : Nat → Reading (List Statement)
  | 0 => failure
  | n + 1 => do
    let body ← block n
    if ← accept "except" then
      let grouped ← handlerHead n
      let first ← block n
      let handled ← handlers grouped n
      let more ← otherwise n
      let last ← (do if ← accept "finally" then finalBlock n else pure [])
      pure [.compound (body ++ first ++ handled ++ more ++ last)]
    else
      expect "finally"
      let last ← finalBlock n
      pure [.compound (body ++ last)]
termination_by structural n => n

/-- A final block behind its keyword. -/
def finalBlock : Nat → Reading (List Statement)
  | 0 => failure
  | n + 1 => do
    expect ":"
    block n
termination_by structural n => n

/-- Further handlers, which handle groups if the first one does. -/
def handlers (grouped : Bool) : Nat → Reading (List Statement)
  | 0 => failure
  | n + 1 => do
    if ← accept "except" then
      let alike ← handlerHead n
      check (alike == grouped)
      let first ← block n
      let more ← handlers grouped n
      pure (first ++ more)
    else pure []
termination_by structural n => n

/-- The cases that a subject is compared with. There is at least one. -/
def cases : Nat → Reading (List Statement)
  | 0 => failure
  | n + 1 => do
    expectWord "case"
    Case.patterns n
    if ← accept "if" then
      let _ ← named n
    expect ":"
    let first ← block n
    let more ← (do if (← peek?) == some .dedent then pure [] else cases n)
    pure (first ++ more)
termination_by structural n => n

end

end RouteAtlas.Script
