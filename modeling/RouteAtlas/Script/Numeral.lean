import RouteAtlas.Text.Basic

/-!
# Numerals in a script

Where a numeral ends. Between two digits one low line may stand. A decimal numeral may not begin
with a zero unless it is zero, or has a fraction, an exponent or the letter of imaginary numbers.
What follows must not be part of a word, unless it is one of the keywords that can follow a number.

The value of a numeral is of no use to anyone who looks for routes. Kept is whether it is imaginary,
because patterns distinguish that, and what follows it.
-/

namespace RouteAtlas.Script.Numeral

/-- A character that can be part of a word. -/
def isWordPart (c : Char) : Bool :=
  Text.isAsciiLetter c || Text.isAsciiDigit c || c == '_' || 128 ≤ c.toNat

/-- What follows a group of digits whose first digit has been read. -/
def afterDigits (isDigit : Char → Bool) : Text → Option Text
  | '_' :: c :: rest => if isDigit c then afterDigits isDigit rest else none
  | c :: rest => if isDigit c then afterDigits isDigit rest else if c == '_' then none else c :: rest
  | [] => some []

/-- What follows a keyword that stands at the beginning as a whole word. -/
def startsWithWord (word : String) (s : Text) : Bool :=
  match word.toList.isPrefixOf? s with
  | none => false
  | some rest => !(rest.head?.any isWordPart)

/-- A number may end before this text. -/
def mayEnd (s : Text) : Bool :=
  ["and", "else", "for", "not", "or"].any (startsWithWord · s)
    || ["if", "in", "is"].any (·.toList.isPrefixOf s)
    || !(s.head?.any isWordPart)

/-- A numeral that has been read: whether it is imaginary, and what follows. -/
abbrev Reading := Option (Bool × Text)

/-- A numeral that ends here. -/
def endsAt (imaginary : Bool) (s : Text) : Reading :=
  if mayEnd s then some (imaginary, s) else none

/-- The end of a decimal numeral, which may be the letter of imaginary numbers. -/
def ending : Text → Reading
  | 'j' :: rest | 'J' :: rest => endsAt true rest
  | s => endsAt false s

/-- An exponent behind its letter. -/
def exponent (letter : Char) : Text → Reading
  | c :: rest =>
    if c == '+' || c == '-' then
      match rest with
      | d :: more =>
        if Text.isAsciiDigit d then (afterDigits Text.isAsciiDigit more).bind ending else none
      | [] => none
    else if Text.isAsciiDigit c then (afterDigits Text.isAsciiDigit rest).bind ending
    else endsAt false (letter :: c :: rest)
  | [] => endsAt false [letter]

/-- What follows the digits before a point or exponent. -/
def exponentOrEnd : Text → Reading
  | 'e' :: rest => exponent 'e' rest
  | 'E' :: rest => exponent 'E' rest
  | s => ending s

/-- The part behind a point. -/
def fraction : Text → Reading
  | c :: rest =>
    if Text.isAsciiDigit c then (afterDigits Text.isAsciiDigit rest).bind exponentOrEnd
    else exponentOrEnd (c :: rest)
  | [] => some (false, [])

/-- How many digits a decimal integer may have. -/
def digitLimit : Nat := 4300

/-- A decimal integer is small enough to be read and does not begin with a needless zero. -/
def isInteger (digits : Text) : Bool :=
  if digits.head? = some '0' then digits.all (· == '0') else digits.length ≤ digitLimit

/-- A decimal numeral whose first digit is `first`. -/
def decimal (first : Char) (s : Text) : Reading := do
  let rest ← afterDigits Text.isAsciiDigit s
  let digits := first :: (s.take (s.length - rest.length)).filter (· != '_')
  match rest with
  | '.' :: more => fraction more
  | 'e' :: more =>
    match exponent 'e' more with
    | some (imaginary, after) =>
      if after.length = rest.length && !isInteger digits then none else some (imaginary, after)
    | none => none
  | 'E' :: more => exponent 'E' more
  | 'j' :: more | 'J' :: more => endsAt true more
  | _ => if isInteger digits then endsAt false rest else none

/-- A numeral in another base, behind the letter of the base. -/
def based (isDigit : Char → Bool) (s : Text) : Reading :=
  match (if s.head? = some '_' then s.drop 1 else s) with
  | c :: rest =>
    if isDigit c then do
      let after ← afterDigits isDigit rest
      if after.head?.any Text.isAsciiDigit then none else endsAt false after
    else none
  | [] => none

/-- The numeral that begins with a digit. -/
def ofDigit (first : Char) (s : Text) : Reading :=
  match first, s with
  | '0', 'x' :: rest | '0', 'X' :: rest => based (fun c => (Text.hexValue? c).isSome) rest
  | '0', 'o' :: rest | '0', 'O' :: rest => based (fun c => '0' ≤ c && c ≤ '7') rest
  | '0', 'b' :: rest | '0', 'B' :: rest => based (fun c => c == '0' || c == '1') rest
  | _, _ => decimal first s

end RouteAtlas.Script.Numeral
