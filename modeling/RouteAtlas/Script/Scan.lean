import RouteAtlas.Script.Margin
import RouteAtlas.Script.Numeral
import RouteAtlas.Script.Template
import RouteAtlas.Text.Blank
import RouteAtlas.Text.CharClass
import RouteAtlas.Text.Normal

/-!
# The tokens of a script

The scanner steps from token to token. Between brackets line ends and indentation do not count, and
lines without tokens never do. Each step takes at least one character.

What the scanner remembers between two steps is little: the line, the brackets that are waited for,
the blocks it is in, and whether the line has had a token yet. A step says how many more characters
it takes, so that the lines it has passed can be counted in one place (`Scanner.passing`).

At the beginning of a line the white space is measured, and the tokens for where blocks begin and
end are found before the line's own ones.
-/

namespace RouteAtlas.Script

/-- What the scanner remembers. -/
structure Scanner where
  /-- How many lines have been passed. -/
  line : Nat := 0
  /-- The closing brackets that are waited for, innermost first. -/
  awaited : List Char := []
  blocks : List Margin := []
  /-- The line has had no token yet and gets no line end. -/
  blank : Bool := false
  /-- The tokens found, last one first. -/
  found : List Placed := []

namespace Scanner

/-- Notes a token. -/
def emit (s : Scanner) (t : Token) : Scanner := { s with found := ⟨s.line, t⟩ :: s.found }

/-- A scanner and how many further characters the step takes. -/
abbrev Step := Option (Scanner × Nat)

/-- The beginning of a line. -/
def enterLine (s : Scanner) (text : Text) : Step := do
  let (margin, width) ← marginFrom ⟨0, 0⟩ 0 0 text
  let next := (text.drop width).head?
  if next = some '#' || next = some '\n' then pure ({ s with blank := true }, width)
  else if !s.awaited.isEmpty then pure ({ s with blank := false }, width)
  else
    let (tokens, blocks) ← settle margin s.blocks
    pure (tokens.foldl emit { s with blank := false, blocks }, width)

/-- The end of a line and the beginning of the next one. -/
def lineEnd (s : Scanner) (rest : Text) : Step :=
  let ended := if s.blank || !s.awaited.isEmpty then s else s.emit .lineEnd
  { ended with line := s.line + 1 }.enterLine rest

/-- The token of a string constant. -/
def literalToken (found : Literal.Found) : Option Token :=
  if found.style.bytes then
    if Literal.isBytes found.style.raw found.body then some .bytes else none
  else if found.style.template then
    (Template.expressions? found.style.raw found.body).map .template
  else (Literal.textOf? found.style.raw found.body).map .text

/-- A word. -/
def word (s : Scanner) (c : Char) (rest : Text) : Step :=
  let written := c :: rest.takeWhile Numeral.isWordPart
  if Text.isIdentifier written then
    let id : Name := ⟨Text.identifierForm written, Text.identifierForm_ne_nil (List.cons_ne_nil _ _)⟩
    some (s.emit (.ofWord id written), written.length - 1)
  else none

/-- A numeral that has been read. -/
def numeral (s : Scanner) (rest : Text) : Numeral.Reading → Step
  | none => none
  | some (imaginary, after) => some (s.emit (.number imaginary), rest.length - after.length)

/-- An operator, a bracket or another sign. -/
def sign (s : Scanner) (c : Char) (rest : Text) : Step := do
  let found ← signs.find? fun sign => sign.toList.isPrefixOf (c :: rest)
  let emitted := s.emit (.mark found)
  match Template.closing? c with
  | some close =>
    if Template.bracketLimit ≤ s.awaited.length then none
    else pure ({ emitted with awaited := close :: s.awaited }, 0)
  | none =>
    if ")]\x7d".toList.contains c then
      match s.awaited with
      | [] => none
      | close :: outer => if c == close then pure ({ emitted with awaited := outer }, 0) else none
    else pure (emitted, found.length - 1)

/-- One step from a character on. -/
def step (s : Scanner) (c : Char) (rest : Text) : Step :=
  if c == '\n' then s.lineEnd rest
  else if Template.isFiller c then some (s, 0)
  else if c == '#' then some (s, (rest.takeWhile (· != '\n')).length)
  else if c == '\\' then if rest.head? = some '\n' && 2 ≤ rest.length then some (s, 1) else none
  else if Literal.opens (c :: rest) then do
    let found ← Literal.ofText? (c :: rest)
    let token ← literalToken found
    pure (s.emit token, found.width - 1)
  else if Text.isAsciiDigit c then s.numeral rest (Numeral.ofDigit c rest)
  else if c == '.' && rest.head?.any Text.isAsciiDigit then s.numeral rest (Numeral.fraction rest)
  else if Numeral.isWordPart c then s.word c rest
  else s.sign c rest

/-- The lines that a step has passed, apart from a line end that it began with. -/
def passing (s : Scanner) (taken : Text) : Scanner :=
  { s with line := s.line + taken.count '\n' }

/-- Scans a text. -/
def run (s : Scanner) (text : Text) : Option Scanner :=
  match text with
  | [] => if s.awaited.isEmpty then some s else none
  | c :: rest =>
    match s.step c rest with
    | none => none
    | some (next, width) => (next.passing (rest.take width)).run (rest.drop width)
termination_by text.length
decreasing_by simp only [List.length_drop, List.length_cons]; omega

end Scanner

/-- The text with all its lines ended alike, the last one included. -/
def withLineEnds (source : Text) : Text :=
  let unified := Text.unifyNewlines source
  if unified.getLast? = some '\n' && !(source.reverse.take 2 == ['\n', '\r']) then unified
  else unified ++ ['\n']

/-- The tokens of a text. -/
def tokens? (source : Text) : Option (List Placed) := do
  let text := withLineEnds source
  let (entered, width) ← ({} : Scanner).enterLine text
  let scanned ← (entered.passing (text.take width)).run (text.drop width)
  pure scanned.found.reverse

end RouteAtlas.Script
