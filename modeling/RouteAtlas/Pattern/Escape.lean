import RouteAtlas.Pattern.Cursor
import RouteAtlas.Text.CharName

/-!
# Escapes in patterns

What a backslash and the characters behind it stand for: a character given by a letter, by its
number or by its name, a class of characters, a place, or a group.

Inside a set an escape can only stand for a character or a class, and so two readers share what they
agree on (`readNumbered?`, `readItself`). A letter without a meaning of its own is refused in both.

Digits are ambiguous outside of sets: three octal ones spell the number of a character, while one or
two decimal ones refer to a group. Which it is shows at the third digit, unless a zero comes first,
which always begins a number.
-/

namespace RouteAtlas.Pattern

open Reading

/-- The characters that have a letter of their own. -/
def letterEscape? : Char → Option Nat
  | 'a' => some 7
  | 'b' => some 8
  | 'f' => some 12
  | 'n' => some 10
  | 'r' => some 13
  | 't' => some 9
  | 'v' => some 11
  | '\\' => some 92
  | _ => none

/-- The classes that have a letter of their own, in capitals for their complements. -/
def categoryEscape? : Char → Option Member
  | 'd' => some (.category .digit false)
  | 'D' => some (.category .digit true)
  | 's' => some (.category .blank false)
  | 'S' => some (.category .blank true)
  | 'w' => some (.category .word false)
  | 'W' => some (.category .word true)
  | _ => none

/-- The places that have a letter of their own. -/
def anchorEscape? : Char → Option Anchor
  | 'A' => some .textStart
  | 'Z' => some .textEnd
  | 'b' => some .wordBoundary
  | 'B' => some .noWordBoundary
  | _ => none

/-- A hexadecimal digit. -/
def isHexDigit (c : Char) : Bool := (Text.hexValue? c).isSome

/-- An octal digit. -/
def isOctalDigit (c : Char) : Bool := '0' ≤ c && c ≤ '7'

/-- The number that octal digits spell. -/
def octalValue (digits : Text) : Nat :=
  Text.valueInBase 8 (digits.map fun c => c.toNat - '0'.toNat)

/-- A number of exactly `width` hexadecimal digits behind a letter. -/
def readHex (letter : Char) (width : Nat) : Reading Nat := do
  let digits ← takeSome isHexDigit width
  let escape := '\\' :: letter :: digits
  if digits.length < width then refuse (.incompleteEscape escape) escape.length
  else
    let n := Text.valueInBase 16 (digits.filterMap Text.hexValue?)
    if 0x7FFFFFFF < n then throw .codeTooLarge
    else if 0x10FFFF < n then refuse (.badEscape escape) escape.length
    else pure n

/-- A character by its name. -/
def readNamed : Reading Nat := do
  if ← accept '{' then
    let name ← takeUntil '}' "character name"
    match Text.namedChar? name with
    | some c => pure c.toNat
    | none => refuse (.undefinedCharacter name) (name.length + 4)
  else refuse (.missing "\x7b") 0

/-- A character by its number or name, if the letter announces one. -/
def readNumbered? (letter : Char) : Reading (Option Nat) := do
  match letter with
  | 'x' => some <$> readHex letter 2
  | 'u' => some <$> readHex letter 4
  | 'U' => some <$> readHex letter 8
  | 'N' => some <$> readNamed
  | _ => pure none

/-- What remains: a character that is no letter and no digit stands for itself. -/
def readItself (letter : Char) : Reading Nat :=
  if Text.isAsciiLetter letter || Text.isAsciiDigit letter then
    refuse (.badEscape ['\\', letter]) 2
  else pure letter.toNat

/-- An octal number that is too large for a byte is refused. -/
def octalCode (escape : Text) : Reading Nat :=
  let n := octalValue (escape.drop 1)
  if 0o377 < n then refuse (.octalTooLarge escape) escape.length else pure n

/-- An escape inside a set of characters. -/
def readSetEscape (letter : Char) : Reading Member := do
  match letterEscape? letter, categoryEscape? letter with
  | some n, _ => pure (.code n)
  | none, some member => pure member
  | none, none =>
    match ← readNumbered? letter with
    | some n => pure (.code n)
    | none =>
      if isOctalDigit letter then
        let more ← takeSome isOctalDigit 2
        .code <$> octalCode ('\\' :: letter :: more)
      else .code <$> readItself letter

/-- A reference to the group that decimal digits spell. -/
def readReference (digits : Text) : Reading Node := do
  let number := Text.decimalValue digits
  if number < (← nextGroup) then
    match ← closedWidth? number with
    | none => refuse .openGroup (digits.length + 1)
    | some width =>
      checkLookbehind number
      pure (.again number width)
  else refuse (.invalidReference number) digits.length

/-- An escape that starts with a digit other than zero: three octal digits name a character,
anything else a group. -/
def readDigits (first : Char) : Reading Node := do
  match ← takeSome Text.isAsciiDigit 1 with
  | [second] =>
    let next ← peek
    let third := (next.bind Token.letter?).filter isOctalDigit
    if third.isSome && isOctalDigit first && isOctalDigit second then
      let more ← takeSome isOctalDigit 1
      .code <$> octalCode ('\\' :: first :: second :: more)
    else readReference [first, second]
  | _ => readReference [first]

/-- An escape outside of sets. -/
def readEscape (letter : Char) : Reading Node := do
  match anchorEscape? letter, categoryEscape? letter, letterEscape? letter with
  | some place, _, _ => pure (.anchor place)
  | none, some member, _ => pure (.oneOf false [member])
  | none, none, some n => pure (.code n)
  | none, none, none =>
    match ← readNumbered? letter with
    | some n => pure (.code n)
    | none =>
      if letter = '0' then
        let more ← takeSome isOctalDigit 2
        pure (.code (octalValue more))
      else if Text.isAsciiDigit letter then readDigits letter
      else .code <$> readItself letter

end RouteAtlas.Pattern
