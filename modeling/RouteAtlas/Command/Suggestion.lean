import RouteAtlas.Text.Basic

/-!
# Suggestions

Spellings that resemble a mistyped one. Two texts resemble each other by what they have in common:
the longest part that stands in both, what the texts before it have in common, and what the texts
behind it have. A spelling is close when twice that is three fifths of both lengths.

Ratios of this kind are compared by multiplying out, so that no rounding comes in. Of spellings that
are equally close, the one that is later in the order of texts comes first.
-/

namespace RouteAtlas.Command

/-- How long the common beginning of two texts is. -/
def commonStart : Text → Text → Nat
  | a :: s, b :: t => if a = b then commonStart s t + 1 else 0
  | _, _ => 0

/-- A part that stands in two texts: where it begins in each, and how long it is. -/
structure CommonPart where
  left : Nat
  right : Nat
  length : Nat
  deriving DecidableEq, Repr

/-- The longest part that stands in both texts, the leftmost one of several. -/
def longestCommonPart (s t : Text) : CommonPart :=
  let parts := (List.range s.length).flatMap fun i =>
    (List.range t.length).map fun j => ⟨i, j, commonStart (s.drop i) (t.drop j)⟩
  parts.foldl (fun best part => if best.length < part.length then part else best) ⟨0, 0, 0⟩

/-- How much two texts have in common; `fuel` bounds how many parts are counted. -/
def commonLength : (fuel : Nat) → Text → Text → Nat
  | 0, _, _ => 0
  | fuel + 1, s, t =>
    let part := longestCommonPart s t
    if part.length = 0 then 0
    else
      part.length + commonLength fuel (s.take part.left) (t.take part.right)
        + commonLength fuel (s.drop (part.left + part.length))
            (t.drop (part.right + part.length))

/-- How much a spelling has in common with what was typed. -/
def likeness (spelling typed : Text) : Nat := commonLength (spelling.length + 1) spelling typed

/-- The first spelling resembles what was typed at least as well as the second one. -/
def resemblesBetter (typed a b : Text) : Bool :=
  let left := likeness a typed * (b.length + typed.length)
  let right := likeness b typed * (a.length + typed.length)
  right < left || (left == right && Text.le b a)

/-- The spellings that are close to what was typed, the closest first, at most three of them. -/
def closeSpellings (typed : Text) (spellings : List Text) : List Text :=
  let close := spellings.filter fun spelling =>
    decide (3 * (spelling.length + typed.length) ≤ 10 * likeness spelling typed)
  (close.mergeSort (resemblesBetter typed)).take 3

end RouteAtlas.Command
