import RouteAtlas.Text.Basic

/-!
# The parts of a pattern

A pattern is a sequence of nodes. Characters in a pattern are kept by their number, since an escape
can name numbers that no character has. `Node.width` bounds how many characters a node matches.

Modes change what the parts of a pattern match. They are set for a whole pattern or for a group in
it. Three of them choose a class of characters (`ascii`, `unicode`, `locale`) and exclude one
another; `template` can only be set for a whole pattern.
-/

/-! ## Modes -/

namespace RouteAtlas.Pattern

/-- A switch. -/
inductive Mode where
  | ignoreCase
  | locale
  | multiLine
  | dotAll
  | verbose
  | ascii
  | template
  | unicode
  deriving DecidableEq, Repr

/-- The letter of each switch. -/
def Mode.letters : List (Char × Mode) :=
  [('i', .ignoreCase), ('L', .locale), ('m', .multiLine), ('s', .dotAll), ('x', .verbose),
   ('a', .ascii), ('t', .template), ('u', .unicode)]

/-- The switch with a letter. -/
def Mode.ofLetter? (c : Char) : Option Mode := (letters.find? (·.1 == c)).map (·.2)

/-- The switch chooses a class of characters. -/
def Mode.choosesClass (m : Mode) : Bool := m == .ascii || m == .locale || m == .unicode

/-- The switches that are on. -/
abbrev Modes := List Mode

/-- The switches inside a group that turns some on and some off. A class of characters that is
turned on replaces the one around the group. -/
def Modes.within (modes on off : Modes) : Modes :=
  let base := if on.any Mode.choosesClass then modes.filter (!·.choosesClass) else modes
  (on ++ base).filter fun m => !off.contains m

end RouteAtlas.Pattern

/-! ## Nodes -/

namespace RouteAtlas.Pattern

/-- Classes of characters with an escape of their own. -/
inductive Category where
  | digit
  | blank
  | word
  deriving DecidableEq, Repr

/-- A member of a set of characters. -/
inductive Member where
  | code (n : Nat)
  | range (first last : Nat)
  | category (category : Category) (negated : Bool)
  deriving DecidableEq, Repr

/-- Places that take no characters. -/
inductive Anchor where
  | lineStart
  | lineEnd
  | textStart
  | textEnd
  | wordBoundary
  | noWordBoundary
  deriving DecidableEq, Repr

/-- How a repetition chooses between one more round and what follows: prefers the round, prefers
what follows, or takes as many rounds as it can and never gives one back. -/
inductive Greed where
  | greedy
  | lazy
  | possessive
  deriving DecidableEq, Repr

/-- The least and the greatest number of characters of a match. -/
structure Width where
  least : Nat
  most : Nat
  deriving DecidableEq, Repr

/-- The number of rounds that stands for any number. -/
def unbounded : Nat := 4294967295

/-- A width with both bounds below `unbounded` or at it. -/
def Width.capped (w : Width) : Width := ⟨min w.least (unbounded - 1), min w.most unbounded⟩

/-- One width after another. -/
def Width.then (a b : Width) : Width := ⟨a.least + b.least, a.most + b.most⟩

/-- Either of two widths. -/
def Width.or (a b : Width) : Width := ⟨min a.least b.least, max a.most b.most⟩

/-- A part of a pattern. -/
inductive Node where
  /-- One character. -/
  | code (n : Nat)
  /-- Any character but one. -/
  | except (n : Nat)
  /-- Any character but a line feed, or any at all. -/
  | any
  /-- A character of a set, or outside of it. -/
  | oneOf (negated : Bool) (members : List Member)
  | anchor (place : Anchor)
  /-- A sequence, which may have a number and change modes. -/
  | group (number : Option Nat) (on off : Modes) (body : List Node)
  /-- A sequence whose first way to match is final. -/
  | atomic (body : List Node)
  /-- A sequence that must match, or must not, before or after this place. -/
  | look (ahead wanted : Bool) (body : List Node)
  /-- Nothing matches. -/
  | never
  /-- What the group with a number matched, once more. -/
  | again (number : Nat) (width : Width)
  /-- One sequence if the group with a number has matched, another otherwise. -/
  | ifGroup (number : Nat) (yes : List Node) (no : Option (List Node))
  /-- One of several sequences. -/
  | either (alternatives : List (List Node))
  /-- A sequence, several times. -/
  | repeated (greed : Greed) (least most : Nat) (body : List Node)
  deriving Repr

namespace Node

mutual

/-- The bounds of what a node matches. -/
def width : Node → Width
  | .code _ => ⟨1, 1⟩
  | .except _ => ⟨1, 1⟩
  | .any => ⟨1, 1⟩
  | .oneOf .. => ⟨1, 1⟩
  | .anchor _ => ⟨0, 0⟩
  | .group _ _ _ body => (widthAll body).capped
  | .atomic body => (widthAll body).capped
  | .look .. => ⟨0, 0⟩
  | .never => ⟨0, 0⟩
  | .again _ w => w
  | .ifGroup _ yes none => ⟨0, (widthAll yes).capped.most⟩
  | .ifGroup _ yes (some no) => (widthAll yes).capped.or (widthAll no).capped
  | .either alternatives => widthAny alternatives
  | .repeated _ least most body =>
    let w := (widthAll body).capped
    ⟨w.least * least, w.most * most⟩

/-- The bounds of what a sequence matches. -/
def widthAll : List Node → Width
  | [] => ⟨0, 0⟩
  | node :: rest => (width node).then (widthAll rest)

/-- The bounds of what one of several sequences matches. -/
def widthAny : List (List Node) → Width
  | [] => ⟨unbounded - 1, 0⟩
  | body :: rest => (widthAll body).capped.or (widthAny rest)

end

/-- The nodes are the same and hold no other nodes. -/
def sameLeaf : Node → Node → Bool
  | .code a, .code b => a == b
  | .except a, .except b => a == b
  | .any, .any => true
  | .oneOf n ms, .oneOf n' ms' => n == n' && ms == ms'
  | .anchor a, .anchor b => a == b
  | .never, .never => true
  | .again a _, .again b _ => a == b
  | _, _ => false

/-- The sequence with every group that only holds a sequence together replaced by what it holds. -/
def flatten (nodes : List Node) : List Node :=
  nodes.flatMap fun node =>
    match node with
    | .group none [] [] body => body
    | other => [other]

/-- The leaves with which all of some sequences start, the first of these sequences without them,
and the others without them. -/
def sharedStart : List Node → List (List Node) → List Node × List Node × List (List Node)
  | [], others => ([], [], others)
  | node :: rest, others =>
    if others.all fun other => (other.head?.map node.sameLeaf).getD false then
      let (shared, first, others) := sharedStart rest (others.map List.tail)
      (node :: shared, first, others)
    else ([], node :: rest, others)

/-- The members of the set that a sequence amounts to, if it is a single character or set. -/
def asMembers? : List Node → Option (List Member)
  | [.code n] => some [.code n]
  | [.oneOf false members] => some members
  | _ => none

/-- Members without repetitions, each where it stood first. -/
def distinctMembers (members : List Member) : List Member :=
  (members.foldl (fun seen m => if m ∈ seen then seen else m :: seen) []).reverse

/-- A choice between sequences: what they share at the start is pulled out, and a choice between
single characters and sets is one set. -/
def choice : List (List Node) → List Node
  | [] => []
  | [only] => only
  | first :: others =>
    let (shared, first, others) := sharedStart first others
    let alternatives := first :: others
    match alternatives.mapM asMembers? with
    | some sets => shared ++ [.oneOf false (distinctMembers sets.flatten)]
    | none => shared ++ [.either alternatives]

end Node

end RouteAtlas.Pattern
