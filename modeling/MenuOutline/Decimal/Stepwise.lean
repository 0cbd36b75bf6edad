import MenuOutline.Decimal.Binary64

-- Decimals made into numbers step by step: the digits are rounded, then multiplied or divided by a
-- power of ten, itself rounded, and the outcome is rounded again. It may lie beside the number
-- nearest to the decimal.

namespace MenuOutline.Binary64

-- The power of ten nearest to which the steps are taken; a greater one is infinite.
def greatestPower : Nat := 308

def isZero (x : Binary64) : Bool :=
  match x with
  | finite _ significand _ => significand = 0
  | _ => false

-- The number nearest to the product with the number nearest to a power of ten.
def timesTenTo (x : Binary64) (power : Nat) : Binary64 :=
  match x, ofDecimal false 1 power with
  | finite negative m e, finite _ n f =>
    if m = 0 then x
    else
      let (num, den) := divideByPower (m * n) 1 (-(e + f))
      ofQuotient negative num den
  | x, _ => x

-- The number nearest to the quotient by the number nearest to a power of ten.
def overTenTo (x : Binary64) (power : Nat) : Binary64 :=
  match x, ofDecimal false 1 power with
  | finite negative m e, finite _ n f =>
    if m = 0 then x
    else
      let (num, den) := divideByPower m n (f - e)
      ofQuotient negative num den
  | x, _ => x

-- Divides by a power of ten, the greatest one at a time as long as there is something left.
def scaleDown (x : Binary64) (power : Nat) : Binary64 :=
  if power ≤ greatestPower then x.overTenTo power
  else if x.isZero then x
  else (x.overTenTo greatestPower).scaleDown (power - greatestPower)
termination_by power
decreasing_by simp only [greatestPower] at *; omega

-- Multiplies by a power of ten, unless the outcome is too great.
def scaleUp? (x : Binary64) (power : Nat) : Option Binary64 :=
  if x.isZero then some x
  else if power ≤ greatestPower then
    match x.timesTenTo power with
    | infinite _ => none
    | y => some y
  else none

-- The number that the steps make of `digits * 10 ^ scale`, unless it is too great.
def ofDecimalStepwise? (negative : Bool) (digits : Nat) (scale : Int) : Option Binary64 :=
  let x := ofDecimal negative digits 0
  if 0 ≤ scale then x.scaleUp? scale.toNat else some (x.scaleDown (-scale).toNat)

end MenuOutline.Binary64
