import RouteAtlas.Json.Value

/-!
# Reading documents

A reader for JSON text that also admits the numbers `NaN`, `Infinity` and `-Infinity`. What it
refuses, it refuses at a definite character, and the refusal says which line and column that is.

The reader walks over the text with a cursor. Nesting is limited by `nestingLimit`, on which the
recursion into lists and objects is structural; the loops over their members run on the number of
characters left.
-/

namespace RouteAtlas.Json

/-- Why a text is no document. -/
inductive ReadFault where
  /-- The text begins with a byte order mark. -/
  | byteOrderMark
  /-- What stands at a character does not fit. -/
  | misplaced (what : String) (at_ : Nat)
  /-- A list (or an object) lies too deep inside others. -/
  | tooDeep (inObject : Bool)
  /-- An integer has too many digits. -/
  | tooManyDigits (count : Nat)
  deriving DecidableEq, Repr

/-- Where the reader stands: what is left to read and how many characters precede it. -/
structure Cursor where
  rest : Text
  place : Nat

/-- The cursor `n` characters further on. -/
def Cursor.skip (cur : Cursor) (n : Nat) : Cursor := ⟨cur.rest.drop n, cur.place + n⟩

/-- Blanks between the parts of a document. -/
def isDocumentBlank (c : Char) : Bool := c == ' ' || c == '\t' || c == '\n' || c == '\r'

/-- The cursor behind blanks. -/
def Cursor.skipBlanks (cur : Cursor) : Cursor :=
  let blanks := cur.rest.takeWhile isDocumentBlank
  cur.skip blanks.length

/-- Something is expected where the cursor stands. -/
def expecting {α : Type} (what : String) (cur : Cursor) : Except ReadFault α :=
  .error (.misplaced what cur.place)

/-! ## Strings -/

/-- Four hexadecimal digits and the number they spell. -/
def fourHexDigits? : Text → Option Nat
  | a :: b :: c :: d :: _ => do
    let digits ← [a, b, c, d].mapM Text.hexValue?
    pure (Text.valueInBase 16 digits)
  | _ => none

/-- The character that a one-letter escape names. -/
def simpleEscape? : Char → Option Char
  | '"' => some '"'
  | '\\' => some '\\'
  | '/' => some '/'
  | 'b' => some '\x08'
  | 'f' => some '\x0c'
  | 'n' => some '\n'
  | 'r' => some '\r'
  | 't' => some '\t'
  | _ => none

/-- The code point that a high and a low surrogate make together. -/
def joinSurrogates (high low : Nat) : CodePoint :=
  .char (Char.ofNat (0x10000 + (high - 0xD800) * 0x400 + (low - 0xDC00)))

/-- The code point named by the escape whose four digits start at `cur`, and the cursor behind it.
A character has to follow the digits. A high surrogate joins with an escaped low one right after
it. -/
def readCodeEscape (cur : Cursor) : Except ReadFault (CodePoint × Cursor) :=
  let invalid := fun place =>
    (.error (.misplaced "Invalid \\uXXXX escape" place) : Except ReadFault (CodePoint × Cursor))
  if cur.rest.length ≤ 4 then invalid (cur.place - 1)
  else match fourHexDigits? cur.rest with
    | none => invalid (cur.place - 1)
    | some code =>
      let after := cur.skip 4
      let alone : Except ReadFault (CodePoint × Cursor) :=
        match CodePoint.ofCode? code with
        | some point => .ok (point, after)
        | none => invalid (cur.place - 1)
      if 0xD800 ≤ code ∧ code < 0xDC00 then
        match after.rest with
        | '\\' :: 'u' :: low =>
          if low.length ≤ 4 then alone
          else match fourHexDigits? low with
            | none => invalid (after.place + 1)
            | some second =>
              if 0xDC00 ≤ second ∧ second < 0xE000 then
                .ok (joinSurrogates code second, after.skip 6)
              else alone
        | _ => alone
      else alone

/-- The rest of a string that began at character `start`; `read` holds what was read of it,
backwards. -/
def readStringBody (start : Nat) : Nat → Cursor → CodeText → Except ReadFault (CodeText × Cursor)
  | 0, _, _ => .error (.misplaced "Unterminated string starting at" start)
  | fuel + 1, cur, read =>
    match cur.rest with
    | [] => .error (.misplaced "Unterminated string starting at" start)
    | '"' :: _ => .ok (read.reverse, cur.skip 1)
    | '\\' :: 'u' :: _ => do
      let (point, next) ← readCodeEscape (cur.skip 2)
      readStringBody start fuel next (point :: read)
    | '\\' :: c :: _ =>
      match simpleEscape? c with
      | some plain => readStringBody start fuel (cur.skip 2) (.char plain :: read)
      | none => .error (.misplaced "Invalid \\escape" cur.place)
    | '\\' :: [] => .error (.misplaced "Unterminated string starting at" start)
    | c :: _ =>
      if c.toNat < 32 then expecting "Invalid control character at" cur
      else readStringBody start fuel (cur.skip 1) (.char c :: read)

/-- The string whose opening quote stands at the cursor. -/
def readString (cur : Cursor) : Except ReadFault (CodeText × Cursor) :=
  readStringBody cur.place (cur.rest.length + 1) (cur.skip 1) []

/-! ## Numbers -/

/-- The most digits that an integer may have. -/
def digitLimit : Nat := 4300

/-- The exponent part at the beginning of a text, if a digit is in it: its length and value. -/
def exponentPart? (s : Text) : Option (Nat × Int) :=
  match s with
  | e :: rest =>
    if e == 'e' || e == 'E' then
      let (signs, negative, tail) := match rest with
        | '+' :: tail => (1, false, tail)
        | '-' :: tail => (1, true, tail)
        | tail => (0, false, tail)
      let digits := tail.takeWhile Text.isAsciiDigit
      if digits.isEmpty then none
      else
        let value := Text.decimalValue digits
        some (1 + signs + digits.length, if negative then -(value : Int) else value)
    else none
  | [] => none

/-- The fraction at the beginning of a text, a point and at least one digit: its digits. -/
def fractionPart (s : Text) : Text :=
  match s with
  | '.' :: rest => rest.takeWhile Text.isAsciiDigit
  | _ => []

/-- A minus sign stands at the beginning of a text. -/
def hasMinus : Text → Bool
  | '-' :: _ => true
  | _ => false

/-- The digits at the beginning of a text, up to the point; behind a zero no other follows. -/
def wholePart : Text → Text
  | '0' :: _ => ['0']
  | s => s.takeWhile Text.isAsciiDigit

/-- The number at the cursor. -/
def readNumber (cur : Cursor) : Except ReadFault (Json × Cursor) :=
  let negative := hasMinus cur.rest
  let signed := if negative then cur.rest.drop 1 else cur.rest
  let whole := wholePart signed
  if whole.isEmpty then expecting "Expecting value" cur
  else
    let afterWhole := signed.drop whole.length
    let fraction := fractionPart afterWhole
    let afterFraction :=
      if fraction.isEmpty then afterWhole else afterWhole.drop (fraction.length + 1)
    let before := cur.rest.length - afterFraction.length
    match exponentPart? afterFraction, fraction with
    | none, [] =>
      if digitLimit < whole.length then .error (.tooManyDigits whole.length)
      else
        let size := Text.decimalValue whole
        .ok (.int (if negative then -(size : Int) else size), cur.skip before)
    | exponent, fraction =>
      let (length, value) := exponent.getD (0, 0)
      let digits := Text.decimalValue (whole ++ fraction)
      .ok (.float (.ofDecimal negative digits (value - fraction.length)), cur.skip (before + length))

/-- The words that stand for values. -/
def wordValues : List (String × Json) :=
  [("null", .null), ("true", .bool true), ("false", .bool false), ("NaN", .float .nan),
   ("Infinity", .float (.infinite false)), ("-Infinity", .float (.infinite true))]

/-- The value at the cursor that is neither list, object nor string. -/
def readScalar (cur : Cursor) : Except ReadFault (Json × Cursor) :=
  match wordValues.find? fun (word, _) => word.toList.isPrefixOf cur.rest with
  | some (word, value) => .ok (value, cur.skip word.length)
  | none => readNumber cur

/-! ## Lists and objects -/

/-- The items of a list from the cursor on, up to and with its closing bracket; `items` holds the
earlier ones backwards. -/
def readItems (item : Cursor → Except ReadFault (Json × Cursor)) :
    Nat → Cursor → List Json → Except ReadFault (Json × Cursor)
  | 0, cur, _ => expecting "Expecting value" cur
  | fuel + 1, cur, items => do
    let (value, next) ← item cur
    let next := next.skipBlanks
    match next.rest with
    | ']' :: _ => .ok (.arr (value :: items).reverse, next.skip 1)
    | ',' :: _ => readItems item fuel (next.skip 1).skipBlanks (value :: items)
    | _ => expecting "Expecting \x27,\x27 delimiter" next

/-- The field at the cursor: its key, a colon and its value. -/
def readField (item : Cursor → Except ReadFault (Json × Cursor)) (cur : Cursor) :
    Except ReadFault ((CodeText × Json) × Cursor) :=
  match cur.rest with
  | '"' :: _ => do
    let (key, next) ← readString cur
    let next := next.skipBlanks
    match next.rest with
    | ':' :: _ => do
      let (value, next) ← item (next.skip 1).skipBlanks
      .ok ((key, value), next)
    | _ => expecting "Expecting \x27:\x27 delimiter" next
  | _ => expecting "Expecting property name enclosed in double quotes" cur

/-- The fields of an object from the cursor on, up to and with its closing brace; `fields` holds
the earlier ones. -/
def readFields (item : Cursor → Except ReadFault (Json × Cursor)) :
    Nat → Cursor → List (CodeText × Json) → Except ReadFault (Json × Cursor)
  | 0, cur, _ => expecting "Expecting value" cur
  | fuel + 1, cur, fields => do
    let ((key, value), next) ← readField item cur
    let fields := insertField key value fields
    let next := next.skipBlanks
    match next.rest with
    | '}' :: _ => .ok (.obj fields, next.skip 1)
    | ',' :: _ => readFields item fuel (next.skip 1).skipBlanks fields
    | _ => expecting "Expecting \x27,\x27 delimiter" next

/-- The value at the cursor, with at most `depth` lists and objects inside one another. -/
def readValue : Nat → Cursor → Except ReadFault (Json × Cursor)
  | depth, cur =>
    match cur.rest, depth with
    | '"' :: _, _ => do
      let (s, next) ← readString cur
      .ok (.str s, next)
    | '[' :: _, 0 => .error (.tooDeep false)
    | '{' :: _, 0 => .error (.tooDeep true)
    | '[' :: _, depth + 1 =>
      let inner := (cur.skip 1).skipBlanks
      match inner.rest with
      | ']' :: _ => .ok (.arr [], inner.skip 1)
      | _ => readItems (readValue depth) (inner.rest.length + 1) inner []
    | '{' :: _, depth + 1 =>
      let inner := (cur.skip 1).skipBlanks
      match inner.rest with
      | '}' :: _ => .ok (.obj [], inner.skip 1)
      | _ => readFields (readValue depth) (inner.rest.length + 1) inner []
    | _, _ => readScalar cur

/-- How many lists and objects may lie inside one another. -/
def nestingLimit : Nat := 960

/-- The document that a text spells. -/
def read (s : Text) : Except ReadFault Json :=
  match s with
  | '\ufeff' :: _ => .error .byteOrderMark
  | _ => do
    let (value, next) ← readValue nestingLimit (Cursor.mk s 0).skipBlanks
    let next := next.skipBlanks
    if next.rest.isEmpty then .ok value else expecting "Extra data" next

/-! ## Messages -/

/-- A fault's place in the text it is about: line and column from 1 and character from 0. -/
def placeText (s : Text) (at_ : Nat) : Text :=
  let before := s.take at_
  let line := before.count '\n' + 1
  let column := (before.reverse.takeWhile (· != '\n')).length + 1
  "line ".toList ++ Text.ofNat line ++ " column ".toList ++ Text.ofNat column ++ " (char ".toList
    ++ Text.ofNat at_ ++ [')']

/-- What is said of a refused text. -/
def ReadFault.message (s : Text) : ReadFault → Text
  | .byteOrderMark =>
    "Unexpected UTF-8 BOM (decode using utf-8-sig): ".toList ++ placeText s 0
  | .misplaced what at_ => what.toList ++ ": ".toList ++ placeText s at_
  | .tooDeep inObject =>
    "maximum recursion depth exceeded while decoding a JSON ".toList
      ++ (if inObject then "object" else "array").toList ++ " from a unicode string".toList
  | .tooManyDigits count =>
    "Exceeds the limit (4300 digits) for integer string conversion: value has ".toList
      ++ Text.ofNat count
      ++ " digits; use sys.set_int_max_str_digits() to increase the limit".toList

end RouteAtlas.Json
