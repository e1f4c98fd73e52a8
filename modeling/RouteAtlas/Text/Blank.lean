import RouteAtlas.Text.Basic
import RouteAtlas.Text.CharClass

/-!
# Blanks, line ends and numerals

The white space characters of Unicode (those whose bidirectional class or category marks them
as separators), and the characters that end a line. The four information separators
`U+001C` to `U+001F` are blanks; the first three also end a line.

What people type as a number is read with blanks around it, a sign, digits of any script, and single
low lines between digits (`integer?`). There is a limit to the digits of such a numeral.
-/

/-! ## Blanks and lines -/

namespace RouteAtlas.Text

/-- White space. -/
def isBlank (c : Char) : Bool :=
  let n := c.toNat
  (9 ≤ n && n ≤ 13) || (28 ≤ n && n ≤ 32) || n == 0x85 || n == 0xA0 || n == 0x1680
    || (0x2000 ≤ n && n ≤ 0x200A) || n == 0x2028 || n == 0x2029 || n == 0x202F
    || n == 0x205F || n == 0x3000

/-- The text without the blanks at its ends. -/
def trim (s : Text) : Text := trimWhile isBlank s

/-- The text without leading blanks. -/
def trimStart (s : Text) : Text := s.dropWhile isBlank

/-- The text without trailing blanks. -/
def trimEnd (s : Text) : Text := dropEndWhile isBlank s

/-- A character that ends a line. A carriage return and the line feed after it end one line
together. -/
def endsLine (c : Char) : Bool :=
  let n := c.toNat
  (10 ≤ n && n ≤ 13) || (28 ≤ n && n ≤ 30) || n == 0x85 || n == 0x2028 || n == 0x2029

/-- The lines of a text without their ends: `line` holds the current line backwards. A text that
ends with a line end has no further, empty line. -/
def linesFrom : Text → Text → List Text
  | line, [] => if line.isEmpty then [] else [line.reverse]
  | line, '\r' :: '\n' :: rest => line.reverse :: linesFrom [] rest
  | line, c :: rest =>
    if endsLine c then line.reverse :: linesFrom [] rest else linesFrom (c :: line) rest

/-- The lines of a text, without their ends. -/
def lines (s : Text) : List Text := linesFrom [] s

/-- The maximal runs of characters that are no blanks; `word` holds the current one backwards. -/
def wordsFrom : Text → Text → List Text
  | word, [] => if word.isEmpty then [] else [word.reverse]
  | word, c :: rest =>
    if isBlank c then
      if word.isEmpty then wordsFrom [] rest else word.reverse :: wordsFrom [] rest
    else wordsFrom (c :: word) rest

/-- The words of a text: its maximal runs without blanks. -/
def words (s : Text) : List Text := wordsFrom [] s

/-- Every line end written as one line feed: a carriage return, alone or before a line feed,
becomes a line feed. -/
def unifyNewlines : Text → Text
  | [] => []
  | '\r' :: '\n' :: rest => '\n' :: unifyNewlines rest
  | '\r' :: rest => '\n' :: unifyNewlines rest
  | c :: rest => c :: unifyNewlines rest

end RouteAtlas.Text

/-! ## Numerals -/

namespace RouteAtlas.Text

/-- The values of digits with single low lines between them. -/
def digitValues? : Text → Option (List Nat)
  | [c] => (decimalDigit? c).map fun d => [d]
  | c :: '_' :: rest => do
    let d ← decimalDigit? c
    let more ← digitValues? rest
    pure (d :: more)
  | c :: rest => do
    let d ← decimalDigit? c
    let more ← digitValues? rest
    pure (d :: more)
  | [] => none

/-- The most digits that a numeral may have. -/
def numeralDigits : Nat := 4300

/-- The integer that a numeral denotes. -/
def integer? (s : Text) : Option Int := do
  let plain := trim s
  let (negative, size) := match plain with
    | '-' :: rest => (true, rest)
    | '+' :: rest => (false, rest)
    | rest => (false, rest)
  let values ← digitValues? size
  if numeralDigits < values.length then none
  else
    let value := valueInBase 10 values
    some (if negative then -(value : Int) else value)

end RouteAtlas.Text
