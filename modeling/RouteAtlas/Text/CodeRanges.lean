/-!
# Sets of code points

A Unicode property is a set of code points, kept as its maximal ranges in ascending order and
searched by halving. A table is written down as its gaps: how many code points to pass over, then
how many belong to the set, and so on, as decimal numbers between blanks.

Gaps are small numbers where the ranges themselves would be large ones, and a table of gaps has its
ranges in order whatever its numbers are.
-/

namespace RouteAtlas

/-- The decimal numbers of a text, which stand between blanks; a minus sign negates. `number` has
begun already, with a sign if `negative` holds. -/
def numbersFrom (number : Option Nat) (negative : Bool) : List Char → List Int
  | [] => (number.map fun n => if negative then -(n : Int) else n).toList
  | c :: rest =>
    if '0' ≤ c && c ≤ '9' then
      numbersFrom (some (number.getD 0 * 10 + (c.toNat - '0'.toNat))) negative rest
    else
      (number.map fun n => if negative then -(n : Int) else n).toList
        ++ numbersFrom none (c == '-') rest

/-- The decimal numbers of a string literal. -/
def numbersIn (s : String) : List Int := numbersFrom none false s.toList

/-- Disjoint ranges of code points, each with its first and its last member, in ascending
order. -/
structure CodeRanges where
  bounds : Array (Nat × Nat)

namespace CodeRanges

/-- The ranges after code point `from`, where `gaps` says how many code points each range is away
from the one before and how many it has. -/
def boundsFrom : Nat → List Int → List (Nat × Nat)
  | start, gap :: count :: rest =>
    let first := start + gap.toNat
    (first, first + count.toNat - 1) :: boundsFrom (first + count.toNat) rest
  | _, _ => []

/-- The set whose gaps and counts the text lists. -/
def ofGaps (gaps : String) : CodeRanges :=
  ⟨(boundsFrom 0 (numbersIn gaps)).toArray⟩

/-- Looks for `code` among the ranges numbered `low` to `high`, the last excluded. -/
def search (bounds : Array (Nat × Nat)) (code low high : Nat) : Bool :=
  if _h : low < high then
    let middle := (low + high) / 2
    match bounds[middle]? with
    | none => false
    | some (first, last) =>
      if code < first then search bounds code low middle
      else if last < code then search bounds code (middle + 1) high
      else true
  else false
termination_by high - low

/-- The character belongs to the set. -/
def contains (ranges : CodeRanges) (c : Char) : Bool :=
  search ranges.bounds c.toNat 0 ranges.bounds.size

end CodeRanges

end RouteAtlas
