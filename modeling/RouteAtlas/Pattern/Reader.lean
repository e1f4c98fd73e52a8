import RouteAtlas.Pattern.Group

/-!
# Reading patterns

A pattern is a choice between sequences; a sequence is made of characters, sets, places, groups and
repetitions. The readers for choices, sequences and groups call one another. Each call spends one
unit of fuel, and every three calls take at least one character, so the fuel that `Pattern.read`
gives never runs out.

After reading, what only shows for the whole pattern is checked: groups that conditions ask for,
and look-behinds, which need a fixed width.
-/

namespace RouteAtlas.Pattern

open Reading

/-- Blanks that a verbose pattern may hold anywhere. -/
def isLayout (c : Char) : Bool :=
  c == ' ' || c == '\t' || c == '\n' || c == '\r' || c == '\x0b' || c == '\x0c'

/-- What a group in parentheses turned out to be. -/
inductive GroupResult where
  /-- A part of the pattern. -/
  | node (node : Node)
  /-- A comment. -/
  | nothing
  /-- Modes for the whole pattern have been set. -/
  | modes

/-- A closing parenthesis for the group that was opened at `start`. -/
def expectClose (start : Nat) : Reading Unit := do
  if ← accept ')' then pure () else refuseAt .unterminatedGroup start

/-- The token behind a sign, which has to be there. -/
def takeExpected : Reading Token := do
  match ← take with
  | some token => pure token
  | none => refuse .unexpectedEnd 0

mutual

/-- Sequences between bars. At the top of a pattern, modes set for the whole of it count from the
next sequence on. -/
def readSequences (top isFirst verbose : Bool) : Nat → Reading (List (List Node))
  | 0 => refuse .unexpectedEnd 0
  | fuel + 1 => do
    let sequence ← readSequence (top && isFirst) verbose [] fuel
    if ← accept '|' then
      let modes := (← get).modes
      let verbose := if top then modes.contains .verbose else verbose
      let others ← readSequences top false verbose fuel
      pure (sequence :: others)
    else pure [sequence]
termination_by structural fuel => fuel

/-- The rest of a sequence, whose nodes so far are given, the last one first. Modes for the whole
pattern may be set only if `atStart` holds and nothing has been read. -/
def readSequence (atStart verbose : Bool) (nodes : List Node) : Nat → Reading (List Node)
  | 0 => refuse .unexpectedEnd 0
  | fuel + 1 => do
    let add := fun (node : Node) => readSequence atStart verbose (node :: nodes) fuel
    match ← peek with
    | none => pure (Node.flatten nodes.reverse)
    | some (.escaped c) =>
      let _ ← take
      let node ← readEscape c
      add node
    | some (.plain c) =>
      if c = '|' ∨ c = ')' then pure (Node.flatten nodes.reverse)
      else
        let place := (← get).place
        let _ ← take
        if verbose && isLayout c then readSequence atStart verbose nodes fuel
        else if verbose && c = '#' then
          let _ ← skipPast '\n' ((← get).rest.length + 1)
          readSequence atStart verbose nodes fuel
        else match c with
          | '[' =>
            let node ← readSet
            add node
          | '*' =>
            let nodes ← readRepeat place 0 unbounded nodes
            readSequence atStart verbose nodes fuel
          | '+' =>
            let nodes ← readRepeat place 1 unbounded nodes
            readSequence atStart verbose nodes fuel
          | '?' =>
            let nodes ← readRepeat place 0 1 nodes
            readSequence atStart verbose nodes fuel
          | '\x7b' =>
            match ← readBounds? with
            | none => add (.code c.toNat)
            | some (least, most) =>
              let nodes ← readRepeat place least most nodes
              readSequence atStart verbose nodes fuel
          | '.' => add .any
          | '^' => add (.anchor .lineStart)
          | '$' => add (.anchor .lineEnd)
          | '(' =>
            match ← readGroup (atStart && nodes.isEmpty) verbose place fuel with
            | .node node => add node
            | .nothing => readSequence atStart verbose nodes fuel
            | .modes =>
              readSequence atStart ((← get).modes.contains .verbose) nodes fuel
          | c => add (.code c.toNat)
termination_by structural fuel => fuel

/-- The group whose opening parenthesis, at `start`, was taken. -/
def readGroup (modesAllowed verbose : Bool) (start : Nat) : Nat → Reading GroupResult
  | 0 => refuse .unexpectedEnd 0
  | fuel + 1 => do
    if ← accept '?' then
      let sign ← takeExpected
      match sign with
      | .plain 'P' =>
        if ← accept '<' then
          let name ← readGroupName '>'
          readCapture (some name) verbose start fuel
        else if ← accept '=' then
          let node ← readNamedReference
          pure (.node node)
        else
          let token ← takeExpected
          refuse (.unknownExtension ('P' :: token.text)) (token.text.length + 2)
      | .plain ':' => readPlain [] [] verbose start fuel
      | .plain '#' =>
        if ← skipPast ')' ((← get).rest.length + 1) then pure .nothing
        else refuseAt .unterminatedComment start
      | .plain '=' => readLook true true verbose start fuel
      | .plain '!' => readLook true false verbose start fuel
      | .plain '<' =>
        match ← takeExpected with
        | .plain '=' => readLook false true verbose start fuel
        | .plain '!' => readLook false false verbose start fuel
        | token => refuse (.unknownExtension ('<' :: token.text)) (token.text.length + 2)
      | .plain '(' =>
        let number ← readCondition
        let yes ← readSequence false verbose [] fuel
        let no ← if ← accept '|' then
            let no ← readSequence false verbose [] fuel
            if (← peek) = some (.plain '|') then refuse .tooManyBranches 0
            pure (some no)
          else pure none
        expectClose start
        pure (.node (.ifGroup number yes no))
      | .plain '>' =>
        let body ← readChoice verbose fuel
        expectClose start
        pure (.node (.atomic body))
      | token =>
        let first := token.letter?.bind Mode.ofLetter?
        if first.isSome || token = .plain '-' then
          match ← readModes first with
          | .global on =>
            modify fun r => { r with modes := r.modes ++ on }
            if modesAllowed then pure .modes else refuseAt .modesNotAtStart start
          | .scoped on off => readPlain on off verbose start fuel
        else refuse (.unknownExtension token.text) (token.text.length + 1)
    else readCapture none verbose start fuel
termination_by structural fuel => fuel

/-- A choice inside a group. -/
def readChoice (verbose : Bool) : Nat → Reading (List Node)
  | 0 => refuse .unexpectedEnd 0
  | fuel + 1 => do
    let sequences ← readSequences false false verbose fuel
    pure (Node.choice sequences)
termination_by structural fuel => fuel

/-- The rest of a group that gets a number. -/
def readCapture (name : Option Text) (verbose : Bool) (start : Nat) : Nat → Reading GroupResult
  | 0 => refuse .unexpectedEnd 0
  | fuel + 1 => do
    let number ← openGroup name
    let body ← readChoice verbose fuel
    expectClose start
    closeGroup number body
    pure (.node (.group (some number) [] [] body))
termination_by structural fuel => fuel

/-- The rest of a group without a number. -/
def readPlain (on off : Modes) (verbose : Bool) (start : Nat) : Nat → Reading GroupResult
  | 0 => refuse .unexpectedEnd 0
  | fuel + 1 => do
    let inside := (verbose || on.contains .verbose) && !off.contains .verbose
    let body ← readChoice inside fuel
    expectClose start
    pure (.node (.group none on off body))
termination_by structural fuel => fuel

/-- The rest of a look-ahead or look-behind. -/
def readLook (ahead wanted verbose : Bool) (start : Nat) : Nat → Reading GroupResult
  | 0 => refuse .unexpectedEnd 0
  | fuel + 1 => do
    let outer := (← get).lookbehind
    let number ← nextGroup
    let opens := !ahead && outer.isNone
    if opens then modify fun r => { r with lookbehind := some number }
    let body ← readChoice verbose fuel
    if opens then modify fun r => { r with lookbehind := none }
    expectClose start
    pure (.node (if !wanted && body.isEmpty then .never else .look ahead wanted body))
termination_by structural fuel => fuel

end

/-- The whole pattern, the reader being at its beginning. -/
def readAll (fuel : Nat) : Reading (List Node) := do
  let r ← get
  moveTo r.rest r.place
  let sequences ← readSequences true true (r.modes.contains .verbose) fuel
  let modes := (← get).modes
  if modes.contains .ascii && modes.contains .unicode then throw .classesExclude
  if (← peek).isSome then refuse .unbalancedParenthesis 0
  let count := (← get).widths.length
  match (← get).asked.find? fun (number, _) => count < number with
  | some (number, place) => refuseAt (.invalidReference number) place
  | none => pure (Node.choice sequences)

/-- The name under which a repetition is refused in template mode. -/
def Greed.operator : Greed → String
  | .greedy => "MAX_REPEAT"
  | .lazy => "MIN_REPEAT"
  | .possessive => "POSSESSIVE_REPEAT"

namespace Node

mutual

/-- What makes a node unusable, although it reads well. -/
def unusable? (template : Bool) : Node → Option Complaint
  | .group _ _ _ body => unusableIn? template body
  | .atomic body => unusableIn? template body
  | .look ahead _ body =>
    let w := (widthAll body).capped
    if !ahead && w.least != w.most then some .unboundedLookbehind else unusableIn? template body
  | .ifGroup _ yes none => unusableIn? template yes
  | .ifGroup _ yes (some no) => (unusableIn? template yes).or (unusableIn? template no)
  | .either alternatives => unusableAmong? template alternatives
  | .repeated greed _ _ body =>
    if template then some (.templateRepeat greed.operator) else unusableIn? template body
  | _ => none

/-- What makes a sequence unusable. -/
def unusableIn? (template : Bool) : List Node → Option Complaint
  | [] => none
  | node :: rest => (unusable? template node).or (unusableIn? template rest)

/-- What makes one of several sequences unusable. -/
def unusableAmong? (template : Bool) : List (List Node) → Option Complaint
  | [] => none
  | body :: rest => (unusableIn? template body).or (unusableAmong? template rest)

end

end Node

end RouteAtlas.Pattern

namespace RouteAtlas

/-- A pattern to search for: its parts and the modes that hold for the whole of it. -/
structure Pattern where
  modes : Pattern.Modes
  body : List Pattern.Node

/-- The pattern that a text spells, ignoring case. -/
def Pattern.read (s : Text) : Except Pattern.Fault Pattern := do
  let start : Pattern.Reader := { rest := s, place := 0, modes := [.ignoreCase] }
  let (body, reader) ← (Pattern.readAll (6 * s.length + 12)).run start
  match Pattern.Node.unusableIn? (reader.modes.contains .template) body with
  | some complaint => .error (.unusable complaint)
  | none => .ok ⟨reader.modes, body⟩

end RouteAtlas
