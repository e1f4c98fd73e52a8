import RouteAtlas.Pattern.Fault
import RouteAtlas.Pattern.Node

/-!
# Walking over a pattern

A pattern is read token by token: a character, or a backslash with the character behind it. The
reader also remembers what it has seen of the pattern: the modes set for the whole of it, the names
and widths of its groups, and the groups that a condition asks for before they are known to exist.

A backslash at the very end is refused as soon as the token before it has been taken.

The place of a complaint is counted back from where the reader stands (`refuse`), because what is
complained about has mostly been taken by then; where that is too far away to count, the place was
kept (`refuseAt`).
-/

namespace RouteAtlas.Pattern

/-- A token. -/
inductive Token where
  | plain (c : Char)
  | escaped (c : Char)
  deriving DecidableEq, Repr

/-- The text of a token. -/
def Token.text : Token → Text
  | .plain c => [c]
  | .escaped c => ['\\', c]

/-- A token as a letter. -/
def Token.letter? : Token → Option Char
  | .plain c => some c
  | .escaped _ => none

/-- Where the reader is and what it has seen. -/
structure Reader where
  rest : Text
  place : Nat
  modes : Modes
  /-- Numbers of named groups. -/
  names : List (Text × Nat) := []
  /-- Widths of the groups from number 1 on; a group that is still open has none. -/
  widths : List (Option Width) := []
  /-- Inside a look-behind, the number from which groups are defined in it. -/
  lookbehind : Option Nat := none
  /-- Groups that conditions ask for, with the places of the questions. -/
  asked : List (Nat × Nat) := []

/-- A step of reading. -/
abbrev Reading (α : Type) := StateT Reader (Except Fault) α

namespace Reading

/-- The token at the reader. -/
def peek : Reading (Option Token) := do
  match (← get).rest with
  | [] => pure none
  | '\\' :: c :: _ => pure (some (.escaped c))
  | c :: _ => pure (some (.plain c))

/-- Puts the reader at a place. -/
def moveTo (rest : Text) (place : Nat) : Reading Unit :=
  if rest = ['\\'] then throw (.misplaced .badEscapeAtEnd place)
  else modify fun r => { r with rest, place }

/-- Complains about the place `back` characters before the reader. -/
def refuse {α : Type} (complaint : Complaint) (back : Nat) : Reading α := do
  throw (.misplaced complaint ((← get).place - back))

/-- Complains about a place. -/
def refuseAt {α : Type} (complaint : Complaint) (place : Nat) : Reading α :=
  throw (.misplaced complaint place)

/-- Takes the token at the reader. -/
def take : Reading (Option Token) := do
  let token ← peek
  let r ← get
  match token with
  | none => pure ()
  | some t => moveTo (r.rest.drop t.text.length) (r.place + t.text.length)
  pure token

/-- Takes a character if it stands at the reader. -/
def accept (c : Char) : Reading Bool := do
  if (← peek) = some (.plain c) then
    let _ ← take
    pure true
  else pure false

/-- Takes at most `n` characters of a class. -/
def takeSome (p : Char → Bool) : Nat → Reading Text
  | 0 => pure []
  | n + 1 => do
    match ← peek with
    | some (.plain c) =>
      if p c then
        let _ ← take
        let more ← takeSome p n
        pure (c :: more)
      else pure []
    | _ => pure []

/-- Takes every character of a class. -/
def takeAll (p : Char → Bool) : Reading Text := do
  takeSome p (← get).rest.length

/-- Takes what stands before a terminator, which is taken too; `read` was taken already. -/
def takeUntilFrom (terminator : Char) (what : String) (read : Text) : Nat → Reading Text
  | 0 => refuse (.missing what) 0
  | n + 1 => do
    match ← take with
    | none =>
      if read.isEmpty then refuse (.missing what) 0
      else refuse (.unterminatedName terminator) read.length
    | some token =>
      if token = .plain terminator then
        if read.isEmpty then refuse (.missing what) 1 else pure read
      else takeUntilFrom terminator what (read ++ token.text) n

/-- Takes what stands before a terminator, which is taken too. -/
def takeUntil (terminator : Char) (what : String) : Reading Text := do
  takeUntilFrom terminator what [] ((← get).rest.length + 1)

/-- Takes tokens up to and with a character, or to the end: whether the character was there. -/
def skipPast (c : Char) : Nat → Reading Bool
  | 0 => pure false
  | n + 1 => do
    match ← take with
    | none => pure false
    | some token => if token = .plain c then pure true else skipPast c n

/-- The number that the next group gets. -/
def nextGroup : Reading Nat := do
  pure ((← get).widths.length + 1)

/-- The width of a group, if it exists and is closed. -/
def closedWidth? (number : Nat) : Reading (Option Width) := do
  pure (((← get).widths[number - 1]?).getD none)

/-- Complains unless a group may be referred to from inside a look-behind. -/
def checkLookbehind (number : Nat) : Reading Unit := do
  match (← get).lookbehind with
  | none => pure ()
  | some from_ =>
    if (← closedWidth? number).isNone then refuse .openGroup 0
    else if from_ ≤ number then refuse .sameLookbehind 0
    else pure ()

end Reading

end RouteAtlas.Pattern
