import RouteAtlas.Document.Fault
import RouteAtlas.Json.Value
import RouteAtlas.Text.Case
import RouteAtlas.Text.Utf8

/-!
# Reading fields leniently

How single values of documents and settings are read. A text has to be a text, and where something
is asked of it, it must not hold halves of surrogate pairs. A whole number may
also come as a truth value, as a floating-point number without a fraction, or as a numeral: signed,
with leading zeros, with single low lines between digits, and with a fraction of zeros.

A check that promises something of its value returns the value with the proof (`nonEmptyText`,
`integerFrom`), so that the types of records and settings can rely on it. A field may go by two
names, of which the first one that is there is taken; a fault in it is reported under that name.
-/

namespace RouteAtlas.Field

/-! ## Strings -/

/-- A text of whatever code points. -/
def codeText : Json → Checked CodeText
  | .str s => .ok s
  | _ => .fail .notText

/-- A text. -/
def text : Json → Checked Text
  | .str s =>
    match s.toText? with
    | some t => .ok t
    | none => .fail .textNotEncodable
  | _ => .fail .notText

/-- A text that is not empty. -/
def nonEmptyText (value : Json) : Checked { t : Text // t ≠ [] } :=
  match text value with
  | .error faults => .error faults
  | .ok t => if h : t ≠ [] then .ok ⟨t, h⟩ else .fail .textTooShort

/-- A text of whatever code points, or nothing. -/
def optionalCodeText : Json → Checked (Option CodeText)
  | .null => .ok none
  | value => (codeText value).map some

/-! ## Whole numbers -/

/-- White space at the ends of numerals. -/
def isNumeralBlank (c : Char) : Bool :=
  let n := c.toNat
  (9 ≤ n && n ≤ 13) || n == 32 || n == 0x85 || n == 0xA0 || n == 0x1680
    || (0x2000 ≤ n && n ≤ 0x200A) || n == 0x2028 || n == 0x2029 || n == 0x202F
    || n == 0x205F || n == 0x3000

/-- The numeral without its sign, and whether it is negative; a second sign may not follow. -/
def splitSign : Text → Option (Bool × Text)
  | '+' :: '-' :: _ => none
  | '-' :: '+' :: _ => none
  | '+' :: rest => some (false, rest)
  | '-' :: rest => some (true, rest)
  | rest => some (false, rest)

/-- The numeral without a fraction that consists of zeros. -/
def dropZeroFraction (s : Text) : Text :=
  match Text.breakOn ['.'] s with
  | some (whole, fraction) =>
    if !fraction.isEmpty && fraction.all (· == '0') then whole else s
  | none => s

/-- The digits of a numeral with single low lines between them. -/
def joinedDigits : Text → Option Text
  | [c] => if Text.isAsciiDigit c then some [c] else none
  | c :: '_' :: rest =>
    if Text.isAsciiDigit c then (joinedDigits rest).map (c :: ·) else none
  | c :: rest => if Text.isAsciiDigit c then (joinedDigits rest).map (c :: ·) else none
  | [] => none

/-- The integer that a numeral denotes. -/
def numeral? (s : Text) : Option Int := do
  let (negative, size) ← splitSign (Text.trimWhile isNumeralBlank s)
  let digits ← joinedDigits (dropZeroFraction size)
  let value := Text.decimalValue digits
  some (if negative then -(value : Int) else value)

/-- The longest numeral that is read, in bytes. -/
def numeralLimit : Nat := 4300

/-- An integer from a text. -/
def integerOfText (s : Text) : Checked Int :=
  if numeralLimit < (Utf8.encode s).length then .fail .integerTooLong
  else match numeral? s with
    | some n => .ok n
    | none => .fail .integerUnreadable

/-- An integer from a floating-point number. -/
def integerOfFloat (x : Binary64) : Checked Int :=
  match x with
  | .finite .. =>
    match x.toInt? with
    | none => .fail .integerWithFraction
    | some n => if n.natAbs < Nat.pow 2 63 then .ok n else .fail .integerTooLong
  | _ => .fail .notFinite

/-- A whole number. -/
def integer : Json → Checked Int
  | .int n => .ok n
  | .bool b => .ok (if b then 1 else 0)
  | .float x => integerOfFloat x
  | .str s =>
    match s.toText? with
    | some t => integerOfText t
    | none => .fail .textNotEncodable
  | _ => .fail .notInteger

/-- A whole number that is not less than `least`. -/
def integerFrom (least : Int) (value : Json) : Checked { n : Int // least ≤ n } :=
  match integer value with
  | .error faults => .error faults
  | .ok n => if h : least ≤ n then .ok ⟨n, h⟩ else .fail .tooSmall

/-! ## Floating-point numbers -/

/-- The decimal number that a text spells from its beginning to its end: digits with or without a
point, and an exponent with or without a sign. -/
def decimal? (negative : Bool) (s : Text) : Option Binary64 :=
  let whole := s.takeWhile Text.isAsciiDigit
  let rest := s.drop whole.length
  let (fraction, rest) := match rest with
    | '.' :: rest => (rest.takeWhile Text.isAsciiDigit, rest.dropWhile Text.isAsciiDigit)
    | rest => ([], rest)
  let digits := whole ++ fraction
  let exponent : Option Int := match rest with
    | [] => some 0
    | e :: power =>
      if e == 'e' || e == 'E' then
        let (sign, power) := match power with
          | '+' :: power => (1, power)
          | '-' :: power => (-1, power)
          | power => ((1 : Int), power)
        if !power.isEmpty && power.all Text.isAsciiDigit then some (sign * Text.decimalValue power)
        else none
      else none
  if digits.isEmpty then none
  else exponent.map fun power =>
    .ofDecimal negative (Text.decimalValue digits) (power - fraction.length)

/-- The floating-point number that a text spells, or a word for one. -/
def floatNumeral? (s : Text) : Option Binary64 :=
  let (negative, size) := match s with
    | '-' :: size => (true, size)
    | '+' :: size => (false, size)
    | size => (false, size)
  let word := Text.lower size
  if word == "inf".toList || word == "infinity".toList then some (.infinite negative)
  else if word == "nan".toList then some .nan
  else decimal? negative size

/-- The text without the low lines in it, if each of them stands alone and inside. -/
def withoutLowLines? (s : Text) : Option Text :=
  if s.head? == some '_' || s.getLast? == some '_' || !s.contains '_'
      || Text.hasPart ['_', '_'] s then none
  else some (s.filter (· != '_'))

/-- A floating-point number from a text. -/
def floatOfText (s : Text) : Checked Binary64 :=
  match floatNumeral? (Text.trimWhile isNumeralBlank s) with
  | some x => .ok x
  | none =>
    match (withoutLowLines? s).bind floatNumeral? with
    | some x => .ok x
    | none => .fail .floatUnreadable

/-- A floating-point number. -/
def float : Json → Checked Binary64
  | .float x => .ok x
  | .int n => .ok (.ofInt n)
  | .bool b => .ok (.ofInt (if b then 1 else 0))
  | .str s =>
    match s.toText? with
    | some t => floatOfText t
    | none => .fail .textNotEncodable
  | _ => .fail .notFloat

/-! ## Parts -/

/-- A list. -/
def list : Json → Checked (List Json)
  | .arr items => .ok items
  | _ => .fail .notList

/-- The fields of an object. -/
def object : Json → Checked (List (CodeText × Json))
  | .obj fields => .ok fields
  | _ => .fail .notObject

/-- A field has up to two keys; the first that is there counts. -/
def find (keys : List String) (fields : List (CodeText × Json)) : Option (String × Json) :=
  keys.findSome? fun key =>
    (Json.lookupField (CodeText.ofString key) fields).map fun value => (key, value)

/-- A field that has to be there, reported under its first key otherwise. -/
def required {α : Type} (keys : List String) (check : Json → Checked α)
    (fields : List (CodeText × Json)) : Checked α :=
  match find keys fields with
  | some (key, value) => Checked.under (.key key.toList) (check value)
  | none => Checked.under (.key (keys.headD "").toList) (.fail .missing)

/-- A field that may be left out. -/
def optional {α : Type} (keys : List String) (default : α) (check : Json → Checked α)
    (fields : List (CodeText × Json)) : Checked α :=
  match find keys fields with
  | some (key, value) => Checked.under (.key key.toList) (check value)
  | none => .ok default

end RouteAtlas.Field
