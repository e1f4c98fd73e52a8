import RouteAtlas.Pattern.CharTest
import RouteAtlas.Pattern.Reader

/-!
# Searching for a pattern

A node is matched from a state on by trying its ways in order of preference; what follows it is a
function from states to outcomes (`Next`), which is asked for each way until it succeeds. The
recursion is on the nodes. Repetitions run on a bound of their own: a round beyond the least number
begins further on than the round before, so there are at most as many of these as characters left,
and one more.

Only the first way to succeed counts, since all that is asked of a pattern in the end is whether it
matches. Still the order of the ways matters: an atomic part, a possessive repetition and a look
ahead or behind commit to their first way, and what a group has captured depends on it.
-/

namespace RouteAtlas.Pattern

/-- A place in a text: what precedes it, backwards, and what follows. -/
structure Spot where
  before : Text
  after : Text
  deriving DecidableEq, Repr

/-- The number of characters in front of a place. -/
def Spot.place (s : Spot) : Nat := s.before.length

/-- The place `n` characters before, if there is one. -/
def Spot.back? : Nat → Spot → Option Spot
  | 0, s => some s
  | n + 1, ⟨c :: before, after⟩ => back? n ⟨before, c :: after⟩
  | _ + 1, ⟨[], _⟩ => none

/-- The place behind a given number of characters. -/
def Spot.forth : Nat → Spot → Spot
  | n + 1, ⟨before, c :: after⟩ => forth n ⟨c :: before, after⟩
  | _, s => s

/-- Where a group began most recently, and where it ended. -/
structure Capture where
  first : Spot
  last : Option Spot

/-- A state of matching: where it is, and the groups that have begun. -/
structure Progress where
  spot : Spot
  captures : List (Nat × Capture) := []

/-- What is left to be matched. -/
abbrev Next := Progress → Option Progress

namespace Progress

/-- The capture of a group that has ended, not before it began. -/
def closed? (p : Progress) (number : Nat) : Option (Spot × Spot) :=
  match p.captures.find? (·.1 == number) with
  | some (_, ⟨first, some last⟩) =>
    if last.place < first.place then none else some (first, last)
  | _ => none

/-- The text that a group matched. -/
def captured? (p : Progress) (number : Nat) : Option Text :=
  (p.closed? number).map fun (first, last) => first.after.take (last.place - first.place)

/-- A group begins here; where it ended before is remembered. -/
def begin_ (p : Progress) (number : Nat) : Progress :=
  let last := (p.captures.find? (·.1 == number)).bind (·.2.last)
  { p with captures :=
      (number, ⟨p.spot, last⟩) :: p.captures.filter (·.1 != number) }

/-- A group ends here. -/
def end_ (p : Progress) (number : Nat) : Progress :=
  { p with captures := p.captures.map fun (n, capture) =>
      if n = number then (n, { capture with last := some p.spot }) else (n, capture) }

end Progress

/-- A place in a text is as the anchor asks. -/
def Anchor.holds (modes : Modes) (s : Spot) (anchor : Anchor) : Bool :=
  let word := Category.holds (modes.contains .ascii) .word
  let atBoundary := (s.before.head?.map word).getD false != (s.after.head?.map word).getD false
  let isEmpty := s.before.isEmpty && s.after.isEmpty
  match anchor with
  | .lineStart =>
    s.before.isEmpty || (modes.contains .multiLine && s.before.head? == some '\n')
  | .lineEnd =>
    s.after.isEmpty || s.after == ['\n']
      || (modes.contains .multiLine && s.after.head? == some '\n')
  | .textStart => s.before.isEmpty
  | .textEnd => s.after.isEmpty
  | .wordBoundary => !isEmpty && atBoundary
  | .noWordBoundary => !isEmpty && !atBoundary

/-- The text starts with another one, by the lower case of the characters. -/
def startsWith (rule : CaseRule) : Text → Text → Bool
  | [], _ => true
  | _ :: _, [] => false
  | a :: as, c :: cs => rule.lower a == rule.lower c && startsWith rule as cs

/-! ## Repetitions

`body` matches one round. `count` rounds have been made; the last one that was not required began
at place `start`. -/

/-- One more round is allowed. -/
def mayRepeat (most count : Nat) (start : Option Nat) (p : Progress) : Bool :=
  (count < most || most == unbounded) && start != some p.spot.place

/-- As many rounds as possible, fewer if what follows needs it. -/
def greedily (body : Progress → Next → Option Progress) (least most : Nat) :
    (fuel count : Nat) → (start : Option Nat) → Progress → Next → Option Progress
  | 0, _, _, _, _ => none
  | fuel + 1, count, start, p, next =>
    if count < least then
      body p fun q => greedily body least most fuel (count + 1) start q next
    else if mayRepeat most count start p then
      match body p fun q =>
        greedily body least most fuel (count + 1) (some p.spot.place) q next with
      | some q => some q
      | none => next p
    else next p

/-- As few rounds as possible, more if what follows needs it. -/
def lazily (body : Progress → Next → Option Progress) (least most : Nat) :
    (fuel count : Nat) → (start : Option Nat) → Progress → Next → Option Progress
  | 0, _, _, _, _ => none
  | fuel + 1, count, start, p, next =>
    if count < least then
      body p fun q => lazily body least most fuel (count + 1) start q next
    else
      match next p with
      | some q => some q
      | none =>
        if mayRepeat most count start p then
          body p fun q => lazily body least most fuel (count + 1) (some p.spot.place) q next
        else none

/-- As many rounds as possible, each matched in its first way. -/
def possessively (body : Progress → Next → Option Progress) (least most : Nat) :
    (fuel count : Nat) → (start : Option Nat) → Progress → Option Progress
  | 0, _, _, _ => none
  | fuel + 1, count, start, p =>
    if count < least then
      match body p some with
      | some q => possessively body least most fuel (count + 1) start q
      | none => none
    else if mayRepeat most count start p then
      match body p some with
      | some q => possessively body least most fuel (count + 1) (some p.spot.place) q
      | none => some p
    else some p

/-- Rounds made by a repetition. -/
def rounds (greed : Greed) (least most : Nat) (body : Progress → Next → Option Progress)
    (p : Progress) (next : Next) : Option Progress :=
  let fuel := least + p.spot.after.length + 2
  match greed with
  | .greedy => greedily body least most fuel 0 none p next
  | .lazy => lazily body least most fuel 0 none p next
  | .possessive => (possessively body least most fuel 0 none p).bind next

/-! ## Nodes -/

/-- Takes one character that a node matches. -/
def takeOne (modes : Modes) (node : Node) (p : Progress) (next : Next) : Option Progress :=
  match p.spot.after with
  | [] => none
  | c :: _ =>
    if (node.takes? modes c).getD false then next { p with spot := p.spot.forth 1 } else none

/-- What a group matched, once more. -/
def takeAgain (modes : Modes) (number : Nat) (p : Progress) (next : Next) : Option Progress :=
  match p.captured? number with
  | none => none
  | some text =>
    if startsWith (.of modes) text p.spot.after then
      next { p with spot := p.spot.forth text.length }
    else none

/-- Looks from a place whether something matches, and goes on from where it was. -/
def lookFrom (wanted : Bool) (start : Option Spot) (body : Progress → Next → Option Progress)
    (p : Progress) (next : Next) : Option Progress :=
  match start.bind fun spot => body { p with spot } some, wanted with
  | some q, true => next { q with spot := p.spot }
  | none, false => next p
  | _, _ => none

mutual

/-- Matches a node and what follows it. -/
def run (modes : Modes) : Node → Progress → Next → Option Progress
  | .code n => takeOne modes (.code n)
  | .except n => takeOne modes (.except n)
  | .any => takeOne modes .any
  | .oneOf negated members => takeOne modes (.oneOf negated members)
  | .anchor place => fun p next => if place.holds modes p.spot then next p else none
  | .group none on off body => runAll (modes.within on off) body
  | .group (some number) on off body => fun p next =>
    runAll (modes.within on off) body (p.begin_ number) fun q => next (q.end_ number)
  | .atomic body => fun p next => (runAll modes body p some).bind next
  | .look true wanted body => fun p => lookFrom wanted (some p.spot) (runAll modes body) p
  | .look false wanted body => fun p =>
    lookFrom wanted (p.spot.back? (Node.widthAll body).capped.least) (runAll modes body) p
  | .never => fun _ _ => none
  | .again number _ => takeAgain modes number
  | .ifGroup number yes none => fun p next =>
    if (p.closed? number).isSome then runAll modes yes p next else next p
  | .ifGroup number yes (some no) => fun p next =>
    if (p.closed? number).isSome then runAll modes yes p next else runAll modes no p next
  | .either alternatives => runAny modes alternatives
  | .repeated greed least most body => rounds greed least most (runAll modes body)

/-- Matches a sequence and what follows it. -/
def runAll (modes : Modes) : List Node → Progress → Next → Option Progress
  | [] => fun p next => next p
  | node :: rest => fun p next => run modes node p fun q => runAll modes rest q next

/-- Matches one of several sequences and what follows it. -/
def runAny (modes : Modes) : List (List Node) → Progress → Next → Option Progress
  | [] => fun _ _ => none
  | body :: rest => fun p next => (runAll modes body p next).or (runAny modes rest p next)

end

end RouteAtlas.Pattern

namespace RouteAtlas.Pattern

/-- The pattern matches from a place on. -/
def matchesAt (pattern : Pattern) (spot : Spot) : Bool :=
  (runAll pattern.modes pattern.body ⟨spot, []⟩ some).isSome

/-- The pattern matches from a place or a later one on. -/
def foundFrom (pattern : Pattern) : (before after : Text) → Bool
  | before, [] => pattern.matchesAt ⟨before, []⟩
  | before, c :: after =>
    pattern.matchesAt ⟨before, c :: after⟩ || foundFrom pattern (c :: before) after

/-- The pattern matches somewhere in a text. -/
def foundIn (pattern : Pattern) (text : Text) : Bool := pattern.foundFrom [] text

end RouteAtlas.Pattern
