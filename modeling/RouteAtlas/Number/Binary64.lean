import RouteAtlas.Number.Rounding
import RouteAtlas.Text.Basic

/-!
# Binary floating-point numbers of 64 bits

The numbers with a fraction or an exponent in a document, and the settings that are ratios. A
value is kept by its sign, significand and exponent, so that everything about it is a statement on
integers. `ofDecimal` reads a decimal, correctly rounded; `text` writes the fewest digits that
read back.

The shortest digits are looked for on coarser grids first: of the two multiples of a power of ten
next to the number, one may lie so close that it reads back (`Reach`). The first grid that has one
gives the digits. Seventeen grids are tried, since no number needs more digits.
-/

namespace RouteAtlas

/-- A 64-bit binary floating-point number. A finite one is `± significand * 2 ^ exponent`. -/
inductive Binary64 where
  | nan
  | infinite (negative : Bool)
  | finite (negative : Bool) (size : Scaled)
  deriving DecidableEq, Repr

namespace Binary64

/-- The positive number nearest to a quotient, infinite from the largest one on. -/
def ofQuotient (negative : Bool) (num den : Nat) : Binary64 :=
  let size := nearestScaled num den
  if 971 < size.exponent then .infinite negative else .finite negative size

/-- The number nearest to `digits * 10 ^ exponent`. An exponent that puts the leading digit far
outside the range of the format decides the answer at once. -/
def ofDecimal (negative : Bool) (digits : Nat) (exponent : Int) : Binary64 :=
  if digits = 0 then .finite negative .zero
  else
    let leading := exponent + (digits.log2 / 3 : Nat)
    if 400 < exponent then .infinite negative
    else if leading < -800 then .finite negative .zero
    else match exponent with
      | .ofNat n => ofQuotient negative (digits * Nat.pow 10 n) 1
      | .negSucc n => ofQuotient negative digits (Nat.pow 10 (n + 1))

/-- The number that equals an integer, rounded when it has more than 53 digits. -/
def ofInt (n : Int) : Binary64 := ofQuotient (n < 0) n.natAbs 1

/-- The number nearest to a rational. -/
def ofRat (q : Rat) : Binary64 := ofQuotient (q.num < 0) q.num.natAbs q.den

/-- Numerator and denominator of a finite number. -/
def fraction? : Binary64 → Option (Int × Nat)
  | .finite negative size =>
    let (num, den) := size.fraction
    some (if negative then -(num : Int) else num, den)
  | _ => none

/-- The integer that a number equals, if it is whole. -/
def toInt? (x : Binary64) : Option Int := do
  let (num, den) ← x.fraction?
  if num % den = 0 then some (num / den) else none

/-- The number is less than a quotient of integers with a positive denominator. -/
def lessThan (x : Binary64) (num : Int) (den : Nat) : Bool :=
  match x with
  | .nan => false
  | .infinite negative => negative
  | .finite .. =>
    match x.fraction? with
    | some (a, b) => a * den < num * b
    | none => false

/-- The number is greater than a quotient of integers with a positive denominator. -/
def greaterThan (x : Binary64) (num : Int) (den : Nat) : Bool :=
  match x with
  | .nan => false
  | .infinite negative => !negative
  | .finite .. =>
    match x.fraction? with
    | some (a, b) => num * b < a * den
    | none => false

/-! ## The shortest decimal -/

/-- Numbers between which a decimal reads back as the same number: numerators over one common
denominator, of the lower end, the number itself and the upper end, and whether the ends belong. -/
structure Reach where
  low : Nat
  middle : Nat
  high : Nat
  den : Nat
  closed : Bool

/-- What rounds to a positive number: half a place on both sides, but a quarter below a power of
two, where the places get finer. The ends belong when the significand is even. -/
def reach (x : Scaled) : Reach :=
  let below := if x.significand = Nat.pow 2 52 ∧ leastExponent < x.exponent then 1 else 2
  let (unit, den) := scaleUp 1 (x.exponent - 2)
  { low := (4 * x.significand - below) * unit
    middle := 4 * x.significand * unit
    high := (4 * x.significand + 2) * unit
    den
    closed := x.significand % 2 = 0 }

/-- A quotient lies within reach. -/
def Reach.holds (r : Reach) (num den : Nat) : Bool :=
  let below := compare (num * r.den) (r.low * den)
  let above := compare (num * r.den) (r.high * den)
  (below == .gt && above == .lt) || (r.closed && (below == .eq || above == .eq))

/-- The decimal place of the leading digit: the largest `k` for which `10 ^ k` does not exceed the
quotient, looked for downwards from `place` in at most `fuel` steps. -/
def leadingDecimalPlace (num den : Nat) : Nat → Int → Int
  | 0, place => place
  | fuel + 1, place =>
    let reached := match place with
      | .ofNat n => decide (den * Nat.pow 10 n ≤ num)
      | .negSucc n => decide (den ≤ num * Nat.pow 10 (n + 1))
    if reached then place else leadingDecimalPlace num den fuel (place - 1)

/-- The neighbours of a number on the grid of multiples of `10 ^ place` that lie within reach, the
nearer one first: a digit string with its last place. -/
def gridHit? (r : Reach) (place : Int) : Option (Nat × Int) :=
  let (num, den) := match place with
    | .ofNat n => (Nat.pow 10 n, 1)
    | .negSucc n => (1, Nat.pow 10 (n + 1))
  let below := r.middle * den / (r.den * num)
  let above := below + 1
  let within := fun k => r.holds (k * num) den
  -- twice the distance to the lower neighbour against one step of the grid
  let doubled := 2 * (r.middle * den - below * (r.den * num))
  let preferLow :=
    doubled < r.den * num || (doubled == r.den * num && below % 2 == 0)
  if within below && (preferLow || !within above) then some (below, place)
  else if within above then some (above, place)
  else none

/-- The first grid with a number within reach, from the coarsest on. -/
def firstHit (r : Reach) (leading : Int) : Nat → Nat → Nat × Int
  | 0, _ => (0, 0)
  | fuel + 1, count =>
    match gridHit? r (leading - (count : Int)) with
    | some hit => hit
    | none => firstHit r leading fuel (count + 1)

/-- The shortest digits that read back as a positive number, without zeros at the end, and the
place of the last of them. -/
def shortestDigits (x : Scaled) : Text × Int :=
  let r := reach x
  let guess : Int := ((x.significand.log2 : Int) + x.exponent) * 3 / 10 + 3
  let leading := leadingDecimalPlace r.middle r.den 800 guess
  let (digits, place) := firstHit r leading 17 0
  let text := Text.ofNat digits
  let kept := Text.dropEndWhile (· == '0') text
  (kept, place + ((text.length - kept.length : Nat) : Int))

/-- A positive number in decimal: positional from `0.0001` up to `10 ^ 16`, always with a fraction;
otherwise one digit, a fraction if there are more, and an exponent with a sign and at least two
digits. -/
def positiveText (x : Scaled) : Text :=
  let (digits, place) := shortestDigits x
  let point : Int := place + digits.length
  if -4 < point ∧ point ≤ 16 then
    if point ≤ 0 then "0.".toList ++ List.replicate (-point).toNat '0' ++ digits
    else
      let whole := digits.take point.toNat
      let fraction := digits.drop point.toNat
      whole ++ List.replicate (point.toNat - whole.length) '0' ++ '.' ::
        (if fraction.isEmpty then ['0'] else fraction)
  else
    let exponent := point - 1
    let size := Text.ofNat exponent.natAbs
    let mantissa := match digits with
      | first :: second :: rest => first :: '.' :: second :: rest
      | few => few
    mantissa ++ ['e', if exponent < 0 then '-' else '+'] ++
      (if size.length < 2 then '0' :: size else size)

/-- The fewest digits that read back, `nan`, or `inf` with a sign if it is negative. -/
def text : Binary64 → Text
  | .nan => "nan".toList
  | .infinite negative => (if negative then "-inf" else "inf").toList
  | .finite negative size =>
    (if negative then ['-'] else []) ++
      if size.significand = 0 then "0.0".toList else positiveText size

end Binary64

end RouteAtlas
