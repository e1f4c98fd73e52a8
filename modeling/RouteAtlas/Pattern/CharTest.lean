import RouteAtlas.Pattern.Node
import RouteAtlas.Text.Blank
import RouteAtlas.Text.Case
import RouteAtlas.Text.CharClass

/-!
# Which characters a part of a pattern matches

A character given in a pattern matches itself. When case is ignored, both sides are taken in lower
case, and small letters with the same capital count as the same (`Text.lowerVariants`). A set is
taken in lower case only if one of its members has case; then its classes see the lower case of the
character as well.

In ASCII mode, only ASCII letters have case and only ASCII characters are words, digits and blanks.
-/

namespace RouteAtlas.Pattern

/-- An ASCII letter in lower case; everything else is left alone. -/
def asciiLower (c : Char) : Char :=
  if 'A' ≤ c && c ≤ 'Z' then Char.ofNat (c.toNat + 32) else c

/-- White space in ASCII. -/
def isAsciiBlank (c : Char) : Bool := c == ' ' || (9 ≤ c.toNat && c.toNat ≤ 13)

/-- The character belongs to a class. -/
def Category.holds (ascii : Bool) (category : Category) (c : Char) : Bool :=
  match category, ascii with
  | .digit, true => Text.isAsciiDigit c
  | .digit, false => Text.isDecimal c
  | .blank, true => isAsciiBlank c
  | .blank, false => Text.isBlank c
  | .word, true => Text.isAsciiLetter c || Text.isAsciiDigit c || c == '_'
  | .word, false => Text.isWordChar c

/-- The character with a number, if there is one. -/
def charOf? (n : Nat) : Option Char :=
  if h : n.isValidChar then some (Char.ofNatAux n h) else none

/-- How case is treated. -/
inductive CaseRule where
  | exact
  | asciiFolded
  | folded
  deriving DecidableEq, Repr

/-- The treatment of case in some modes. -/
def CaseRule.of (modes : Modes) : CaseRule :=
  if modes.contains .ignoreCase then
    if modes.contains .ascii then .asciiFolded else .folded
  else .exact

namespace CaseRule

/-- The lower case of a character. -/
def lower : CaseRule → Char → Char
  | .exact, c => c
  | .asciiFolded, c => asciiLower c
  | .folded, c => Text.lowerChar c

/-- The small letters that count as the same as a small letter. -/
def variants : CaseRule → Char → List Char
  | .folded, c => Text.lowerVariants c
  | _, c => [c]

/-- The character has case. -/
def isCased : CaseRule → Char → Bool
  | .exact, _ => false
  | .asciiFolded, c => Text.isAsciiLetter c
  | .folded, c => Text.isCased c

/-- Some character between two numbers, both included, has case. -/
def anyCased (rule : CaseRule) (low high : Nat) : Bool :=
  let meets := fun (first last : Char) => max low first.toNat ≤ min high last.toNat
  match rule with
  | .exact => false
  | .asciiFolded => meets 'A' 'Z' || meets 'a' 'z'
  | .folded => Text.anyCased low high

/-- The characters whose lower case is a given small letter. -/
def sources (rule : CaseRule) (c : Char) : List Char :=
  let others := match rule with
    | .exact => []
    | .asciiFolded => if 'a' ≤ c && c ≤ 'z' then [Char.ofNat (c.toNat - 32)] else []
    | .folded => Text.capitalsOf c
  if rule.lower c = c then c :: others else others

end CaseRule

/-- The character that a pattern gives by its number matches a character of the text. -/
def matchesCode (rule : CaseRule) (n : Nat) (c : Char) : Bool :=
  match charOf? n with
  | none => false
  | some a =>
    if rule.isCased a then (rule.variants (rule.lower a)).contains (rule.lower c) else a == c

/-- The last number whose characters are compared by their lower case; beyond it, a set compares
numbers themselves, and ranges look at capitals as well. -/
def lastFolded : Nat := 0xFFFF

/-- A member makes its set one in which case counts for nothing. -/
def Member.isCased (rule : CaseRule) : Member → Bool
  | .code n =>
    match charOf? n with
    | none => false
    | some a => rule != .exact && (lastFolded < n || rule.isCased a)
  | .range first last =>
    rule != .exact && (lastFolded < last || rule.anyCased first last)
  | .category .. => false

/-- A member matches a character, which is in lower case if case is ignored in this set. -/
def Member.holds (rule : CaseRule) (ascii : Bool) (m : Member) (c : Char) : Bool :=
  match m with
  | .category kind negated => kind.holds ascii c != negated
  | .code n =>
    match charOf? n with
    | none => false
    | some a =>
      if rule = .exact || lastFolded < n then a == c
      else (rule.variants (rule.lower a)).contains c
  | .range first last =>
    let within := fun (x : Char) => first ≤ x.toNat && x.toNat ≤ last
    if rule = .exact then within c
    else
      let folded := (rule.variants c).any fun v =>
        (rule.sources v).any fun x => within x && x.toNat ≤ lastFolded
      folded || (lastFolded < last && (within c || within (Text.capital c)))

/-- Some member of a set matches a character. -/
def matchesMembers (rule : CaseRule) (ascii : Bool) (members : List Member) (c : Char) : Bool :=
  let c := if members.any (·.isCased rule) then rule.lower c else c
  members.any fun m => m.holds rule ascii c

/-- A node that takes exactly one character takes this one; none if the node is of another kind. -/
def Node.takes? (modes : Modes) (c : Char) : Node → Option Bool
  | .code n => some (matchesCode (.of modes) n c)
  | .except n => some (!matchesCode (.of modes) n c)
  | .any => some (modes.contains .dotAll || c != '\n')
  | .oneOf negated members =>
    some (matchesMembers (.of modes) (modes.contains .ascii) members c != negated)
  | _ => none

end RouteAtlas.Pattern
