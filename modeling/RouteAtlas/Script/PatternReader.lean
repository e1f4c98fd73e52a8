import RouteAtlas.Script.ExprReader

/-!
# Reading patterns

The patterns of a statement that compares a subject with cases. Nothing of them is kept. A single
low line matches anything and is no name, so nothing can be taken of it.

Since nothing is kept, the readers only tell whether a pattern is well formed. A few of them say one
thing about what they read, on which it depends whether the pattern around is: an item may take the
rest of a sequence, an argument may be named, a number may be imaginary.

The readers call one another. Every call hands on a number that is one less, and the recursion is
structural on it.
-/

namespace RouteAtlas.Script.Case

open Reading

/-- The word that matches anything. -/
def wildcard : String := "_"

/-- A name that a match binds. -/
def capture : Reading Unit := do
  check !(← seesWord wildcard)
  let _ ← name
  check !(← seesAny [".", "(", "="])

/-- What takes the remaining items. -/
def rest : Reading Unit := do
  if ← seesWord wildcard then skip else capture

/-- A number: whether it is imaginary. -/
def number : Reading Bool := do
  match ← peek? with
  | some (.number imaginary) =>
    skip
    pure imaginary
  | _ => failure

/-- A number with a sign, or a complex one as the sum of a real and an imaginary one. -/
def numeral : Reading Unit := do
  let _ ← accept "-"
  let imaginary ← number
  if ← acceptAny ["+", "-"] then
    check !imaginary
    let second ← number
    check second

/-- What remains of a dotted name behind its first part. The number bounds its length. -/
def dotted : Nat → Reading Unit
  | 0 => failure
  | n + 1 => do
    if ← accept "." then
      let _ ← name
      dotted n

/-- A constant, or the dotted name of one. -/
def key (n : Nat) : Reading Unit := do
  match ← peek? with
  | some (.number _) => numeral
  | some (.name _ _) =>
    skip
    check (← sees ".")
    dotted n
  | some (.mark sign) =>
    if sign == "-" then numeral
    else
      check (["None", "True", "False"].contains sign)
      skip
  | _ =>
    let _ ← quotedConstant

/-- The keyword arguments come behind the other ones. -/
def keywordsLast : List Bool → Bool
  | false :: more => keywordsLast more
  | found => found.all id

mutual

/-- A pattern, perhaps with a name for what it matches. -/
def pattern : Nat → Reading Unit
  | 0 => failure
  | n + 1 => do
    alternatives n
    if ← accept "as" then capture
termination_by structural n => n

/-- Patterns of which one has to match. -/
def alternatives : Nat → Reading Unit
  | 0 => failure
  | n + 1 => do
    closed n
    if ← accept "|" then alternatives n
termination_by structural n => n

/-- A pattern that needs no brackets. -/
def closed : Nat → Reading Unit
  | 0 => failure
  | n + 1 => do
    match ← peek? with
    | some (.mark "(") =>
      skip
      sequence ")" n
    | some (.mark "[") =>
      skip
      sequence "]" n
    | some (.mark "\x7b") =>
      skip
      entries n
    | some (.name _ _) =>
      if ← seesWord wildcard then skip
      else if ← seesAnySecond [".", "("] then
        skip
        dotted n
        if ← accept "(" then arguments n
        else check !(← sees "=")
      else capture
    | _ => key n
termination_by structural n => n

/-- A pattern, or what takes the remaining items: whether it is the latter. -/
def item : Nat → Reading Bool
  | 0 => failure
  | n + 1 => do
    if ← accept "*" then
      rest
      pure true
    else
      pattern n
      pure false
termination_by structural n => n

/-- What follows an opening bracket. A single pattern in parentheses is no sequence. -/
def sequence (closing : String) : Nat → Reading Unit
  | 0 => failure
  | n + 1 => do
    if ← accept closing then pure ()
    else
      let takesRest ← item n
      if ← accept "," then
        let _ ← items (sees closing) (item n) n
      else check (closing == "]" || !takesRest)
      expect closing
termination_by structural n => n

/-- What follows the opening brace of a mapping. What takes the remaining entries comes last. -/
def entries : Nat → Reading Unit
  | 0 => failure
  | n + 1 => do
    if ← accept "\x7d" then pure ()
    else if ← accept "**" then
      capture
      let _ ← accept ","
      expect "\x7d"
    else
      key n
      expect ":"
      pattern n
      if ← accept "," then entries n else expect "\x7d"
termination_by structural n => n

/-- What follows the opening parenthesis of a class pattern. -/
def arguments : Nat → Reading Unit
  | 0 => failure
  | n + 1 => do
    let found ← items (sees ")") (argument n) n
    check (keywordsLast found)
    expect ")"
termination_by structural n => n

/-- A pattern for a member of a class: whether the member is named. -/
def argument : Nat → Reading Bool
  | 0 => failure
  | n + 1 => do
    if ← seesNameBefore "=" then
      skip
      skip
      pattern n
      pure true
    else
      pattern n
      pure false
termination_by structural n => n

end

/-- The patterns of a case, which are a sequence if a comma stands among them. -/
def patterns (n : Nat) : Reading Unit := do
  let takesRest ← item n
  if ← accept "," then
    let _ ← items (seesAny [":", "if"]) (item n) n
  else check !takesRest

end RouteAtlas.Script.Case
