-- Binary floating point numbers of 64 bits, as exact values, and the number nearest to a decimal.

namespace MenuOutline

-- A number of 53 significant bits: `significand * 2 ^ exponent`.
inductive Binary64 where
  | nan
  | infinite (negative : Bool)
  | finite (negative : Bool) (significand : Nat) (exponent : Int)
deriving DecidableEq, Repr

namespace Binary64

def leastExponent : Int := -1074

def greatestExponent : Int := 971

def zero (negative : Bool) : Binary64 :=
  .finite negative 0 leastExponent

-- The integer nearest to a quotient, the even one of two.
def roundDiv (num den : Nat) : Nat :=
  let q := num / den
  let r := num % den
  if 2 * r < den then q
  else if 2 * r = den then q + q % 2
  else q + 1

-- A quotient with its denominator or its numerator multiplied by a power of two.
def divideByPower (num den : Nat) (e : Int) : Nat × Nat :=
  if 0 ≤ e then (num, den * Nat.pow 2 e.toNat) else (num * Nat.pow 2 (-e).toNat, den)

-- The number nearest to the positive quotient `num / den`.
def ofQuotient (negative : Bool) (num den : Nat) : Binary64 :=
  let guess : Int := (num.log2 : Int) - den.log2 - 53
  let (n, d) := divideByPower num den guess
  let exponent := max leastExponent (if n / d < Nat.pow 2 53 then guess else guess + 1)
  let (n, d) := divideByPower num den exponent
  let rounded := roundDiv n d
  let (significand, exponent) :=
    if rounded = Nat.pow 2 53 then (Nat.pow 2 52, exponent + 1) else (rounded, exponent)
  if greatestExponent < exponent then .infinite negative else .finite negative significand exponent

-- The number nearest to `digits * 10 ^ scale`. Scales far out of range are told from the count of
-- digits alone.
def ofDecimal (negative : Bool) (digits : Nat) (scale : Int) : Binary64 :=
  let magnitude := (Nat.toDigits 10 digits).length + scale
  if digits = 0 then zero negative
  else if magnitude < -330 then zero negative
  else if 310 < magnitude then .infinite negative
  else if 0 ≤ scale then ofQuotient negative (digits * Nat.pow 10 scale.toNat) 1
  else ofQuotient negative digits (Nat.pow 10 (-scale).toNat)

end Binary64

end MenuOutline
