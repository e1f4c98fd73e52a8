import RouteAtlas.Text.Basic
import RouteAtlas.Text.CharClass

/-!
# Text that escapes can spell

An escape sequence of four hexadecimal digits can name half of a surrogate pair, which is no
character. Strings of documents and string constants of source files may therefore hold such
halves. `CodeText` has room for them; `toText?` succeeds exactly on the text that holds none.

A text in a message stands between single quotes, or between double quotes when it holds a single
quote and no double one. Backslashes and the quote are escaped, line feeds, carriage returns and
tabs have letters, and other characters that cannot be printed are written by their number. Halves
of pairs never can be printed, so quoting makes a text of whatever code points there are.
-/

namespace RouteAtlas

/-- A character, or half of a surrogate pair that stands alone. -/
inductive CodePoint where
  | char (c : Char)
  | lone (half : Fin 0x800)
  deriving DecidableEq, Repr

/-- A sequence of code points. -/
abbrev CodeText := List CodePoint

namespace CodePoint

/-- The number of a code point. -/
def code : CodePoint → Nat
  | .char c => c.toNat
  | .lone half => 0xD800 + half.val

/-- The code point with a number; beyond the last one there is none. -/
def ofCode? (n : Nat) : Option CodePoint :=
  if 0x10FFFF < n then none
  else if h : 0xD800 ≤ n ∧ n < 0xE000 then some (.lone ⟨n - 0xD800, by omega⟩)
  else some (.char (Char.ofNat n))

/-- The character, unless it is half of a pair. -/
def char? : CodePoint → Option Char
  | .char c => some c
  | .lone _ => none

end CodePoint

namespace CodeText

/-- A text as code points. -/
def ofText (s : Text) : CodeText := s.map .char

/-- A string literal as code points. -/
def ofString (s : String) : CodeText := ofText s.toList

/-- The text, if no half of a pair stands in it. -/
def toText? : CodeText → Option Text
  | [] => some []
  | .char c :: rest => (toText? rest).map (c :: ·)
  | .lone _ :: _ => none

theorem toText?_ofText (s : Text) : toText? (ofText s) = some s := by
  induction s with
  | nil => rfl
  | cons c s ih =>
    simp only [ofText, List.map_cons, toText?] at ih ⊢
    rw [ih]
    rfl

/-- The first run of halves that stand alone: where it begins and its members. -/
def firstLoneRun : CodeText → Nat → Option (Nat × List Nat)
  | [], _ => none
  | .char _ :: rest, at_ => firstLoneRun rest (at_ + 1)
  | s@(.lone _ :: _), at_ =>
    some (at_, (s.takeWhile (·.char?.isNone)).map CodePoint.code)

end CodeText

end RouteAtlas

/-! ## Quoting in messages -/

namespace RouteAtlas.Text

/-- The lower-case hexadecimal digits of a number, at least `width` of them. -/
def hexDigits (width n : Nat) : Text :=
  let digits := Nat.toDigits 16 n
  List.replicate (width - digits.length) '0' ++ digits

/-- A code point written by its number, with as many digits as it needs: two, four or eight. -/
def numberEscape (n : Nat) : Text :=
  if n < 0x100 then "\\x".toList ++ hexDigits 2 n
  else if n < 0x10000 then "\\u".toList ++ hexDigits 4 n
  else "\\U".toList ++ hexDigits 8 n

/-- How a code point is written inside a quoted text. -/
def quotedPoint (mark : Char) : CodePoint → Text
  | .lone half => numberEscape (CodePoint.code (.lone half))
  | .char c =>
    if c = mark ∨ c = '\\' then ['\\', c]
    else if c = '\n' then ['\\', 'n']
    else if c = '\r' then ['\\', 'r']
    else if c = '\t' then ['\\', 't']
    else if isPrintable c then [c]
    else numberEscape c.toNat

/-- Code points between quotes. -/
def quotedCode (s : CodeText) : Text :=
  let mark := if s.contains (.char '\'') && !s.contains (.char '"') then '"' else '\''
  mark :: s.flatMap (quotedPoint mark) ++ [mark]

/-- Code points as they are where text cannot hold halves of surrogate pairs: each half that stands
alone is written by its number. -/
def escapedCode (s : CodeText) : Text :=
  s.flatMap fun
    | .char c => [c]
    | .lone half => numberEscape (CodePoint.code (.lone half))

/-- A text between quotes. -/
def quoted (s : Text) : Text := quotedCode (CodeText.ofText s)

end RouteAtlas.Text
