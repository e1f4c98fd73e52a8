import RouteAtlas.Score.Word

/-!
# Scoring a path

A route path is scored against a query in tiers, the first that applies:

* *exact*: the path is the query (10000);
* *suffix*: the path ends with the query (5000, and 10 for each character of the query);
* *window*: consecutive segments of the path are each alike to the segments of the query; later
  segments count more, and a window at the end of the path more still;
* *fallback*: single segments of the path are alike to the last segment of the query, with a bonus
  for the last two segments of the path;
* *scattered*: the path has the characters of the query in order (5 for each).

Ceilings keep suffix scores below the exact one, and the three lower tiers below every suffix
score.
-/

namespace RouteAtlas

/-- The tier that decided a path's score. -/
inductive PathTier where
  | exact | suffix | window | fallback | scattered | unmatched
  deriving DecidableEq, Repr

/-- A path separator. -/
def isSeparator (c : Char) : Bool := c == '/' || c == '\\'

/-- The non-empty parts of a path between separators. -/
def segments (path : Text) : List Text :=
  (path.splitOnP isSeparator).filter (!·.isEmpty)

/-- The similarity from which a segment fits into a window. -/
def windowThreshold : Rat := rounded (mkRat 65 100)

/-- The similarity above which a single segment counts in the fallback tier. -/
def fallbackThreshold : Rat := rounded (mkRat 6 10)

/-- The score of laying the pattern's segments on the target's from its beginning, which is number
`position` in the whole path; none if some pair is not alike. -/
def alignmentScore? (position : Nat) : List Text → List Text → Option Nat
  | _, [] => some 0
  | [], _ :: _ => none
  | t :: target, p :: pattern =>
    let alike := similarity t p
    if alike < windowThreshold then none
    else
      (alignmentScore? (position + 1) target pattern).map
        (points 100 alike + 10 * (position + 1) + ·)

/-- The score of the window that starts at segment `offset`, with the bonus for one that ends at
the last segment; 0 if it does not fit. -/
def windowScoreAt (target pattern : List Text) (offset : Nat) : Nat :=
  match alignmentScore? offset (target.drop offset) pattern with
  | none => 0
  | some score => if offset + pattern.length = target.length then score + 200 else score

/-- The best window of the path, 0 if none fits. -/
def windowScore (target pattern : List Text) : Nat :=
  if pattern.isEmpty || target.length < pattern.length then 0
  else
    ((List.range (target.length - pattern.length + 1)).map (windowScoreAt target pattern)).foldl
      max 0

/-- The bonus of the segment at `position` among `count` segments. -/
def fallbackBonus (count position : Nat) : Nat :=
  if position + 1 = count then 150
  else if position + 2 = count then 75
  else 5 * position

/-- The score of one segment in the fallback tier; 0 if it is not alike enough. -/
def segmentScore (count : Nat) (needle segment : Text) (position : Nat) : Nat :=
  let alike := similarity segment needle
  if alike ≤ fallbackThreshold then 0 else points 50 alike + fallbackBonus count position

/-- The best single segment against the last segment of the pattern. -/
def fallbackScore (target pattern : List Text) : Nat :=
  match pattern.getLast? with
  | none => 0
  | some needle =>
    (target.zipIdx.map fun (segment, position) =>
      segmentScore target.length needle segment position).foldl max 0

/-- The ceiling of suffix scores. -/
def suffixCeiling : Nat := 9999

/-- The ceiling of the scores below the suffix tier. -/
def lowerCeiling : Nat := 4999

/-- The tier and the score of a path against a pattern, both in lower case already. -/
def lowerPathHit (target pattern : Text) : PathTier × Nat :=
  if target = pattern then (.exact, 10000)
  else if pattern.isSuffixOf target then (.suffix, min (5000 + 10 * pattern.length) suffixCeiling)
  else
    let window := windowScore (segments target) (segments pattern)
    if 0 < window then (.window, min window lowerCeiling)
    else
      let fallback := fallbackScore (segments target) (segments pattern)
      if 0 < fallback then (.fallback, min fallback lowerCeiling)
      else if isSubsequence target pattern then
        (.scattered, min (5 * pattern.length) lowerCeiling)
      else (.unmatched, 0)

/-- The tier and the score of a path against a pattern, ignoring case. -/
def pathHit (target pattern : Text) : PathTier × Nat :=
  if target.isEmpty || pattern.isEmpty then (.unmatched, 0)
  else lowerPathHit (Text.lower target) (Text.lower pattern)

/-- The score of a path against a pattern; 0 means no match. -/
def pathScore (target pattern : Text) : Nat := (pathHit target pattern).2

end RouteAtlas
