import RouteAtlas.Pattern.Escape
import RouteAtlas.Text.Blank

/-!
# Sets, repetitions and the beginnings of groups

The parts of a pattern that hold no other parts: sets of characters, the numbers of rounds of a
repetition, the names of groups, and the letters that switch modes.

Many readers here go on until a sign that closes what they read. Each of them runs on the number of
characters that are left, since every token takes at least one.

A repetition works on nodes that have been read already, and so it looks at the last of them: a
place cannot be repeated, nor can another repetition. A group that neither captures nor switches a
mode gives up its parts to the repetition.
-/

namespace RouteAtlas.Pattern

open Reading

/-! ## Sets -/

/-- The member that a token in a set stands for. -/
def readMember : Token → Reading Member
  | .plain c => pure (.code c.toNat)
  | .escaped c => readSetEscape c

/-- The members of the set that was opened at `start`; `members` holds the earlier ones. -/
def readMembers (start : Nat) : Nat → List Member → Reading (List Member)
  | 0, _ => refuseAt .unterminatedSet start
  | fuel + 1, members => do
    match ← take with
    | none => refuseAt .unterminatedSet start
    | some token =>
      if token = .plain ']' ∧ members ≠ [] then pure members
      else
        let first ← readMember token
        if ← accept '-' then
          match ← take with
          | none => refuseAt .unterminatedSet start
          | some (.plain ']') => pure (members ++ [first, .code '-'.toNat])
          | some other =>
            let last ← readMember other
            match first, last with
            | .code low, .code high =>
              if high < low then
                refuse (.badRange token.text other.text) (token.text.length + 1 + other.text.length)
              else readMembers start fuel (members ++ [.range low high])
            | _, _ =>
              refuse (.badRange token.text other.text) (token.text.length + 1 + other.text.length)
        else readMembers start fuel (members ++ [first])

/-- The set whose opening bracket was taken. A set of one character is that character. -/
def readSet : Reading Node := do
  let start := (← get).place - 1
  let negated ← accept '^'
  let members ← readMembers start ((← get).rest.length + 1) []
  match Node.distinctMembers members, negated with
  | [.code n], false => pure (.code n)
  | [.code n], true => pure (.except n)
  | members, negated => pure (.oneOf negated members)

/-! ## Repetitions -/

/-- A number of rounds. -/
def roundsOf (digits : Text) : Reading Nat :=
  if Text.numeralDigits < digits.length then throw (.tooManyDigits digits.length)
  else
    let n := Text.decimalValue digits
    if unbounded ≤ n then throw .tooManyRounds else pure n

/-- The least and the greatest number of rounds behind an opening brace, or nothing, and the reader
is where it was, if this is no repetition. -/
def readBounds? : Reading (Option (Nat × Nat)) := do
  let start ← get
  if (← peek) = some (.plain '\x7d') then pure none
  else
    let low ← takeAll Text.isAsciiDigit
    let high ← if ← accept ',' then takeAll Text.isAsciiDigit else pure low
    if ← accept '\x7d' then
      let least ← if low.isEmpty then pure 0 else roundsOf low
      if high.isEmpty then pure (some (least, unbounded))
      else
        let most ← roundsOf high
        if most < least then refuseAt .boundsReversed start.place else pure (some (least, most))
    else
      moveTo start.rest start.place
      pure none

/-- The sequence that a repetition behind some nodes repeats, the last node first among them, and
the nodes before it. The repetition sign stands at `place`. -/
def repeatedPart (place : Nat) : List Node → Reading (List Node × List Node)
  | [] => refuseAt .nothingToRepeat place
  | .anchor _ :: _ => refuseAt .nothingToRepeat place
  | .repeated .. :: _ => refuseAt .multipleRepeat place
  | .group none [] [] body :: before => pure (body, before)
  | node :: before => pure ([node], before)

/-- How a repetition chooses, by the sign behind it. -/
def readGreed : Reading Greed := do
  if ← accept '?' then pure .lazy
  else if ← accept '+' then pure .possessive
  else pure .greedy

/-- The nodes, the last one first, with the last one repeated. -/
def readRepeat (place least most : Nat) (nodes : List Node) : Reading (List Node) := do
  let (body, before) ← repeatedPart place nodes
  let greed ← readGreed
  pure (.repeated greed least most body :: before)

/-! ## Modes -/

/-- The mode of a letter, or a complaint about a token that should have been one. -/
def modeOf (token : Token) (otherwise : String) : Reading Mode :=
  match token.letter?.bind Mode.ofLetter? with
  | some mode => pure mode
  | none =>
    match token.letter? with
    | some c =>
      refuse (if Text.isLetter c then .unknownMode else .missing otherwise) 1
    | none => refuse (.missing otherwise) 2

/-- Modes to be turned on, from a first one on, up to and with the sign behind them. -/
def readModesOn (on : Modes) (mode : Mode) : Nat → Reading (Modes × Char)
  | 0 => refuse (.missing "-, : or )") 0
  | fuel + 1 => do
    if mode = .locale then refuse .localeMode 0
    let on := on ++ [mode]
    if mode.choosesClass && on.any fun m => m.choosesClass && m != mode then
      refuse .classesExclude 0
    match ← take with
    | none => refuse (.missing "-, : or )") 0
    | some token =>
      match token.letter?.filter fun c => c == ')' || c == '-' || c == ':' with
      | some sign => pure (on, sign)
      | none =>
        let next ← modeOf token "-, : or )"
        readModesOn on next fuel

/-- Modes to be turned off, from a first one on, up to and with the colon behind them. -/
def readModesOff (off : Modes) (mode : Mode) : Nat → Reading Modes
  | 0 => refuse (.missing ":") 0
  | fuel + 1 => do
    if mode.choosesClass then refuse .classModeOff 0
    let off := off ++ [mode]
    match ← take with
    | none => refuse (.missing ":") 0
    | some (.plain ':') => pure off
    | some token =>
      let next ← modeOf token ":"
      readModesOff off next fuel

/-- What letters of modes are for. -/
inductive ModeUse where
  /-- They hold for the whole pattern. -/
  | global (on : Modes)
  /-- They open a group. -/
  | scoped (on off : Modes)

/-- The modes that a first letter, or a minus sign, announces. -/
def readModes (first : Option Mode) : Reading ModeUse := do
  let fuel := (← get).rest.length + 1
  let (on, sign) ← match first with
    | some mode => readModesOn [] mode fuel
    | none => pure ([], '-')
  if sign = ')' then pure (.global on)
  else if on.contains .template then refuse .globalModeOn 1
  else
    let off ← if sign = '-' then
        match ← take with
        | none => refuse (.missing "flag") 0
        | some token =>
          let mode ← modeOf token "flag"
          readModesOff [] mode fuel
      else pure []
    if off.contains .template then refuse .globalModeOff 1
    else if on.any off.contains then refuse .modeOnAndOff 1
    else pure (.scoped on off)

/-! ## Names of groups -/

/-- A name that ends with a terminator has to be an identifier. -/
def readGroupName (terminator : Char) : Reading Text := do
  let name ← takeUntil terminator "group name"
  if Text.isIdentifier name then pure name
  else refuse (.badGroupName name) (name.length + 1)

/-- The number of a group by its name. -/
def groupNamed (name : Text) : Reading Nat := do
  match (← get).names.find? fun (n, _) => n == name with
  | some (_, number) => pure number
  | none => refuse (.unknownGroup name) (name.length + 1)

/-- A reference to a group by its name. -/
def readNamedReference : Reading Node := do
  let name ← readGroupName ')'
  let number ← groupNamed name
  match ← closedWidth? number with
  | none => refuse .openGroup (name.length + 1)
  | some width =>
    checkLookbehind number
    pure (.again number width)

/-- Every group has a number below this one. -/
def groupLimit : Nat := 2147483647

/-- The number of the group that a condition is about. A group given by number need not be there
yet. -/
def readCondition : Reading Nat := do
  let name ← takeUntil ')' "group name"
  let number ← if Text.isIdentifier name then groupNamed name
    else
      match Text.integer? name with
      | some (.ofNat 0) => refuse .badGroupNumber (name.length + 1)
      | some (.ofNat n) =>
        if groupLimit ≤ n then refuse (.invalidReference n) (name.length + 1)
        modify fun r =>
          if r.asked.any (·.1 == n) then r
          else { r with asked := r.asked ++ [(n, r.place - (name.length + 1))] }
        pure n
      | _ => refuse (.badGroupName name) (name.length + 1)
  checkLookbehind number
  pure number

/-- Opens a group, named or not: its number. -/
def openGroup (name : Option Text) : Reading Nat := do
  let number ← nextGroup
  modify fun r => { r with widths := r.widths ++ [none] }
  match name with
  | none => pure number
  | some name =>
    match (← get).names.find? fun (n, _) => n == name with
    | some (_, before) => refuse (.redefinedGroup name number before) (name.length + 1)
    | none =>
      modify fun r => { r with names := r.names ++ [(name, number)] }
      pure number

/-- Closes a group that matches a sequence. -/
def closeGroup (number : Nat) (body : List Node) : Reading Unit :=
  modify fun r => { r with widths := r.widths.set (number - 1) (some (Node.widthAll body).capped) }

end RouteAtlas.Pattern
