import RouteAtlas.Text.Blank
import RouteAtlas.Text.CodeText

/-!
# Answers to a numbered choice

An answer selects one of some numbered possibilities. It may have blanks around it and digits of any
script. An answer that is not made of digits selects nothing, and neither does a number out of
range; digits that do not make a numeral cannot be read at all. A numeral that is too long is
refused before what follows its digits is looked at.

Two classes of characters meet here. Signs such as a superscript two count as digits when an answer
is looked over (`Text.isDigit`), but they have no place in a numeral (`Text.decimalDigit?`). An
answer with such a sign among its digits therefore passes the look and then cannot be read.
-/

namespace RouteAtlas.Command

/-- Why an answer cannot be read. -/
inductive AnswerFault where
  /-- Signs that stand for digits are among the digits. -/
  | noNumeral (answer : Text)
  | tooManyDigits (count : Nat)
  deriving DecidableEq, Repr

/-- How much of a quoted answer is shown at most. -/
def shownAnswer : Nat := 200

/-- What is said of an answer that cannot be read. -/
def AnswerFault.message : AnswerFault → Text
  | .noNumeral answer =>
    "invalid literal for int() with base 10: ".toList ++ (Text.quoted answer).take shownAnswer
  | .tooManyDigits count =>
    "Exceeds the limit (4300 digits) for integer string conversion: value has ".toList
      ++ Text.ofNat count
      ++ " digits; use sys.set_int_max_str_digits() to increase the limit".toList

/-- The values of the decimal digits that a text begins with. -/
def leadingDigits : Text → List Nat
  | [] => []
  | c :: rest =>
    match Text.decimalDigit? c with
    | some d => d :: leadingDigits rest
    | none => []

/-- The possibility that an answer selects. -/
def selected? {α : Type} (possibilities : List α) (answer : Text) :
    Except AnswerFault (Option α) :=
  let plain := Text.trim answer
  if plain.isEmpty || !plain.all Text.isDigit then .ok none
  else
    let digits := leadingDigits plain
    if Text.numeralDigits < digits.length then .error (.tooManyDigits digits.length)
    else if digits.length < plain.length then .error (.noNumeral plain)
    else match Text.valueInBase 10 digits with
      | 0 => .ok none
      | n + 1 => .ok possibilities[n]?

end RouteAtlas.Command
