/-!
# Rounding to 53 binary digits

Every similarity and threshold in the atlas is a number with at most 53 significant binary
digits. Arithmetic on them is exact arithmetic on rationals followed by one rounding: to the
nearest such number, a tie going to the even significand. This file defines the rounding on
quotients of natural numbers and lifts it to nonnegative rationals (`Rat.rounded`).

The quotient is first brought to a size at which the digits that are kept make up its whole part.
Then one division with a remainder decides everything (`roundDiv`), and a carry into a new leading
digit is made good by the exponent. Numbers too small for 53 digits keep fewer, down to none.
-/

namespace RouteAtlas

/-- The quotient as a natural number, rounded to the nearest one and from a half to the even
one. -/
def roundDiv (num den : Nat) : Nat :=
  let quotient := num / den
  let twice := 2 * (num % den)
  if twice < den then quotient
  else if den < twice then quotient + 1
  else quotient + quotient % 2

/-- The quotient `num / den` divided by `2 ^ exponent`, again as numerator and denominator. -/
def scaleDown (num den : Nat) (exponent : Int) : Nat × Nat :=
  match exponent with
  | .ofNat n => (num, den * Nat.pow 2 n)
  | .negSucc n => (num * Nat.pow 2 (n + 1), den)

/-- The place of the leading binary digit of a positive quotient: the largest `k` for which
`2 ^ k` does not exceed it. -/
def leadingPlace (num den : Nat) : Int :=
  let place := (num.log2 : Int) - (den.log2 : Int)
  let (n, d) := scaleDown num den place
  if n < d then place - 1 else place

/-- The exponent of the last place of the smallest positive numbers. -/
def leastExponent : Int := -1074

/-- A number `significand * 2 ^ exponent` with at most 53 significant digits. -/
structure Scaled where
  significand : Nat
  exponent : Int
  significand_lt : significand < Nat.pow 2 53
  least_le : leastExponent ≤ exponent
  deriving DecidableEq, Repr

/-- Zero, in the last place there is. -/
def Scaled.zero : Scaled := ⟨0, leastExponent, by decide, Int.le_refl _⟩

/-- The number with 53 significant digits that lies nearest to a quotient. Below `2 ^ -1022` the
last place stays at `2 ^ -1074`. -/
def nearestScaled (num den : Nat) : Scaled :=
  if num = 0 then .zero
  else
    let exponent := max (leadingPlace num den - 52) leastExponent
    have least_le : leastExponent ≤ exponent := Int.le_max_right ..
    let (n, d) := scaleDown num den exponent
    let significand := roundDiv n d
    -- rounding up may have carried into a new leading digit
    if h : significand < Nat.pow 2 53 then ⟨significand, exponent, h, least_le⟩
    else ⟨Nat.pow 2 52, exponent + 1, by decide, Int.le_add_one least_le⟩

/-- `n * 2 ^ exponent` as a quotient of natural numbers. -/
def scaleUp (n : Nat) (exponent : Int) : Nat × Nat :=
  match exponent with
  | .ofNat k => (n * Nat.pow 2 k, 1)
  | .negSucc k => (n, Nat.pow 2 (k + 1))

/-- The number as a quotient of natural numbers. -/
def Scaled.fraction (x : Scaled) : Nat × Nat := scaleUp x.significand x.exponent

/-- The number as a rational. -/
def Scaled.toRat (x : Scaled) : Rat :=
  let (num, den) := x.fraction
  mkRat num den

/-- A nonnegative rational rounded to 53 significant binary digits. -/
def rounded (q : Rat) : Rat := (nearestScaled q.num.toNat q.den).toRat

end RouteAtlas
