import RouteAtlas.Number.Rounding
import RouteAtlas.Text.Basic
import RouteAtlas.Text.Case

/-!
# Scoring words

How well a name matches a query. Three notions are built on each other here.

* The *edit distance* is the least number of single-character insertions, deletions and
  replacements that turn one text into another. It is computed row by row: the row of a text `a`
  against `b` holds the distances from `a` to every beginning of `b`, the empty one first. Only one
  row is kept at a time, and rows are as short as they can be, since they go along the shorter of
  the two texts.
* The *similarity* of two words is one minus the edit distance over the longer length, ignoring
  case. Both the quotient and the difference are rounded to 53 binary digits, and so is each product
  with a scale. So a similarity that ties with a threshold in decimals need not tie with it here,
  and the thresholds below are rounded the same way wherever they are no binary fractions.
* The *score* of a controller, action or method name comes in tiers, the first that applies: equal
  (1000), alike by more than a half (400 to 799, in proportion), containing the query (300),
  containing its characters in order (100). A score of 0 means that the name does not match.

Paths are scored by the same similarity, segment by segment, in `RouteAtlas.Score.Path`.
-/

/-! ## Edit distance -/

namespace RouteAtlas

/-- The rest of the row that takes one more character `c` into account, next to the entry `left`
just written and below the entry `diagonal` of the row before. -/
def extendRow (c : Char) (left diagonal : Nat) : Text → List Nat → List Nat
  | x :: b, up :: row =>
    let here := min (min (up + 1) (left + 1)) (diagonal + if c = x then 0 else 1)
    here :: extendRow c here up b row
  | _, _ => []

/-- The row of the text that has one more character `c` at its end. -/
def nextRow (b : Text) (row : List Nat) (c : Char) : List Nat :=
  match row with
  | [] => []
  | first :: rest => (first + 1) :: extendRow c (first + 1) first b rest

/-- The row of the empty text: a beginning of `b` is as far away as it is long. -/
def firstRow (b : Text) : List Nat := List.range (b.length + 1)

/-- The distance by rows along `b`: the last entry of the row of all of `a`. -/
def rowDistance (a b : Text) : Nat :=
  if b.isEmpty then a.length else (a.foldl (nextRow b) (firstRow b)).getLastD 0

/-- The number of single-character insertions, deletions and replacements between two texts. -/
def editDistance (a b : Text) : Nat :=
  if a.length < b.length then rowDistance b a else rowDistance a b

end RouteAtlas

/-! ## Similarity -/

namespace RouteAtlas

/-- How alike two words are, from 0 to 1. Two empty words are alike. -/
def similarity (a b : Text) : Rat :=
  let a := Text.lower a
  let b := Text.lower b
  let longest := max a.length b.length
  if longest = 0 then 1
  else rounded (1 - rounded (mkRat (editDistance a b) longest))

/-- A similarity on a scale of whole points, cut down to a whole one. -/
def points (scale : Nat) (alike : Rat) : Nat :=
  (rounded (alike * scale)).floor.toNat

/-- Every character of the pattern is found in the target, each after the one before. The search
takes the first place where a character stands. -/
def isSubsequence : Text → Text → Bool
  | _, [] => true
  | [], _ :: _ => false
  | t :: target, p :: pattern =>
    if t = p then isSubsequence target pattern else isSubsequence target (p :: pattern)

end RouteAtlas

/-! ## Names -/

namespace RouteAtlas

/-- The similarity above which a word matches by likeness. -/
def wordThreshold : Rat := mkRat 1 2

/-- The score of a word against a pattern, both in lower case already. -/
def lowerWordScore (target pattern : Text) : Nat :=
  if target = pattern then 1000
  else
    let alike := similarity target pattern
    if wordThreshold < alike then points 800 alike
    else if Text.hasPart pattern target then 300
    else if isSubsequence target pattern then 100
    else 0

/-- The score of a word against a pattern, ignoring case. Nothing matches an empty word or an empty
pattern. -/
def wordScore (target pattern : Text) : Nat :=
  if target.isEmpty || pattern.isEmpty then 0
  else lowerWordScore (Text.lower target) (Text.lower pattern)

/-- The ending that controller class names carry by convention, in lower case. -/
def controllerEnding : Text := "controller".toList

/-- A controller's name without its conventional ending, in any case, unless nothing else would be
left. -/
def shortControllerName (name : Text) : Text :=
  if controllerEnding.length < name.length && controllerEnding.isSuffixOf (Text.lower name) then
    name.take (name.length - controllerEnding.length)
  else name

/-- The better score of a controller's full and short name. -/
def controllerScore (name pattern : Text) : Nat :=
  max (wordScore name pattern) (wordScore (shortControllerName name) pattern)

end RouteAtlas
