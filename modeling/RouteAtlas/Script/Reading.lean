import RouteAtlas.Script.Token

/-!
# Reading tokens

A reader takes tokens from the front and hands on the rest, or fails. Alternatives that begin with
different tokens are told apart by looking at the next one; where that does not suffice, a failed
reader takes nothing and another may be tried.

A reader that only looks (`peek?`, `sees`, `seesSecond`) never fails, and one that takes a token
fails where the token is another one. A reader does not say why it failed: a text is a script or it
is not.

Lists of items run on a number that bounds how many there are, as do all readers that call
themselves.
-/

namespace RouteAtlas.Script

/-- A step over tokens. -/
abbrev Reading (α : Type) := StateT (List Placed) Option α

namespace Reading

/-- The next token, if there is one. -/
def peek? : Reading (Option Token) := fun tokens => some (tokens.head?.map (·.token), tokens)

/-- The line of the next token. -/
def line : Reading Nat := fun tokens => some ((tokens.head?.map (·.line)).getD 0, tokens)

/-- Takes one token. -/
def skip : Reading Unit := fun tokens => some ((), tokens.drop 1)

/-- The next token is the sign or keyword. -/
def sees (sign : String) : Reading Bool := do
  pure ((← peek?) == some (.mark sign))

/-- The next token is one of the signs or keywords. -/
def seesAny (signs : List String) : Reading Bool := do
  match ← peek? with
  | some (.mark sign) => pure (signs.contains sign)
  | _ => pure false

/-- The token behind the next one is one of the signs or keywords. -/
def seesAnySecond (signs : List String) : Reading Bool := fun tokens =>
  some ((tokens.drop 1).head?.any fun second => signs.any fun sign => second.token == .mark sign,
    tokens)

/-- The token behind the next one is the sign or keyword. -/
def seesSecond (sign : String) : Reading Bool := seesAnySecond [sign]

/-- Takes the sign or keyword if it is next: whether it was. -/
def accept (sign : String) : Reading Bool := do
  if ← sees sign then
    skip
    pure true
  else pure false

/-- Takes the sign if the condition holds and it is next: whether it was taken. -/
def acceptIf (condition : Bool) (sign : String) : Reading Bool :=
  if condition then accept sign else pure false

/-- Takes one of the signs or keywords if it is next: whether it was. -/
def acceptAny (signs : List String) : Reading Bool := do
  if ← seesAny signs then
    skip
    pure true
  else pure false

/-- Takes a token that has to come. -/
def expectToken (token : Token) : Reading Unit := do
  if (← peek?) == some token then skip else failure

/-- Takes a sign or keyword that has to come. -/
def expect (sign : String) : Reading Unit := expectToken (.mark sign)

/-- Takes a name. -/
def name : Reading Name := do
  match ← peek? with
  | some (.name id _) =>
    skip
    pure id
  | _ => failure

/-- The next token is a name spelled this way, which is a keyword here only. -/
def seesWord (word : String) : Reading Bool := do
  match ← peek? with
  | some (.name _ written) => pure (written == word.toList)
  | _ => pure false

/-- Takes a word that is a keyword here only. -/
def expectWord (word : String) : Reading Unit := do
  if ← seesWord word then skip else failure

/-- Takes the tokens at the front that have a property. -/
def takeWhile (p : Token → Bool) : Reading (List Token) := fun tokens =>
  some ((tokens.takeWhile (p ·.token)).map (·.token), tokens.dropWhile (p ·.token))

/-- Items with commas between them, and perhaps one behind them, until the condition holds. The
number bounds how many there are. -/
def items {α : Type} (ended : Reading Bool) (item : Reading α) : Nat → Reading (List α)
  | 0 => failure
  | n + 1 => do
    if ← ended then pure []
    else
      let first ← item
      if ← accept "," then
        let more ← items ended item n
        pure (first :: more)
      else pure [first]

/-- Items with commas between them and none behind them. The number bounds how many there are. -/
def list {α : Type} (item : Reading α) : Nat → Reading (List α)
  | 0 => failure
  | n + 1 => do
    let first ← item
    if ← accept "," then
      let more ← list item n
      pure (first :: more)
    else pure [first]

/-- Tries a reader, which takes nothing if it fails: whether it succeeded. -/
def attempt (reader : Reading Unit) : Reading Bool := fun tokens =>
  match reader tokens with
  | some (_, rest) => some (true, rest)
  | none => some (false, tokens)

/-- Fails unless the condition holds. -/
def check (condition : Bool) : Reading Unit := if condition then pure () else failure

/-- The next token is a name and the one behind it is the sign. -/
def seesNameBefore (sign : String) : Reading Bool := do
  match ← peek? with
  | some (.name _ _) => seesSecond sign
  | _ => pure false

/-- The next token begins neither an expression nor an unpacked one. -/
def startsNothing : Reading Bool := do
  match ← peek? with
  | some (.mark sign) =>
    pure !(["(", "[", "\x7b", "-", "+", "~", "*", "...", "not", "lambda", "await", "True", "False",
      "None"].contains sign)
  | some .lineEnd | some .indent | some .dedent | none => pure true
  | some _ => pure false

end Reading

end RouteAtlas.Script
