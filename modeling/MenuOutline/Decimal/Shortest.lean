import MenuOutline.Decimal.Binary64

-- The shortest decimal that reads back as a given number: of the decimals with the fewest digits in
-- the interval that rounds to the number, the one nearest to it. A form decides between two that
-- are equally near.

namespace MenuOutline.Binary64

-- A number and the interval that rounds to it, as numerators over one denominator.
structure Interval where
  low : Nat
  value : Nat
  high : Nat
  den : Nat
  -- Whether the ends round to the number too.
  closed : Bool

-- Below a power of two the numbers stand twice as close.
def interval (significand : Nat) (exponent : Int) : Interval :=
  let below := if significand = Nat.pow 2 52 ∧ leastExponent < exponent then 1 else 2
  let scale := Nat.pow 2 (exponent - 2).toNat
  { low := (4 * significand - below) * scale
    value := 4 * significand * scale
    high := (4 * significand + 2) * scale
    den := Nat.pow 2 (2 - exponent).toNat
    closed := significand % 2 = 0 }

-- Whether the interval holds `num / den`.
def Interval.holds (i : Interval) (num den : Nat) : Bool :=
  let (low, x, high) := (i.low * den, num * i.den, i.high * den)
  if i.closed then low ≤ x && x ≤ high else low < x && x < high

-- The multiple of `10 ^ scale` in the interval that is nearest to the number. Midway between two
-- the lesser one tells by `roundsUp` whether to leave it.
def Interval.nearest? (i : Interval) (roundsUp : Nat → Bool) (scale : Int) : Option Nat :=
  let (num, den) := (Nat.pow 10 scale.toNat, Nat.pow 10 (-scale).toNat)
  let q := i.value * den / (i.den * num)
  match i.holds (q * num) den, i.holds ((q + 1) * num) den with
  | true, true =>
    let rest := i.value * den % (i.den * num)
    if 2 * rest < i.den * num ∨ (2 * rest = i.den * num ∧ !roundsUp q) then some q
    else some (q + 1)
  | true, false => some q
  | false, true => some (q + 1)
  | false, false => none

-- Tries finer and finer scales.
def Interval.search (i : Interval) (roundsUp : Nat → Bool) (scale : Int) : Nat → Nat × Int
  | 0 => (0, 0)
  | fuel + 1 =>
    match i.nearest? roundsUp scale with
    | some digits => (digits, scale)
    | none => i.search roundsUp (scale - 1) fuel

-- The digits and the scale of the shortest decimal for a positive number.
def shortest (roundsUp : Nat → Bool) (significand : Nat) (exponent : Int) : Nat × Int :=
  let i := interval significand exponent
  let magnitude : Int :=
    (Nat.toDigits 10 (i.value / i.den)).length - (Nat.toDigits 10 (i.den / i.value)).length
  i.search roundsUp (magnitude + 1) 24

def pad (n : Nat) : String :=
  String.ofList (List.replicate n '0')

-- All digits written out, with a point among or after them.
def positional (digits : List Char) (scale : Int) : String :=
  let point := digits.length + scale
  if 0 ≤ scale then .ofList digits ++ pad scale.toNat ++ ".0"
  else if 0 < point then
    .ofList (digits.take point.toNat) ++ "." ++ .ofList (digits.drop point.toNat)
  else "0." ++ pad (-point).toNat ++ .ofList digits

-- One digit before the point and the scale as a power of ten with its sign.
def scientific (digits : List Char) (scale : Int) : String :=
  let power := digits.length + scale - 1
  let power := if 0 ≤ power then "+" ++ toString power else toString power
  match digits with
  | [d] => .ofList [d] ++ "e" ++ power
  | digits => .ofList (digits.take 1) ++ "." ++ .ofList (digits.drop 1) ++ "e" ++ power

-- How numbers are written.
structure Form where
  -- Which numbers have all their digits, by the place of the point.
  isPositional : Int → Bool
  -- Which decimals a number midway between them and the next one leaves for that one.
  roundsUp : Nat → Bool

-- Writes the shortest decimal in a form.
def Form.write (form : Form) (x : Binary64) : String :=
  match x with
  | nan => "NaN"
  | infinite negative => if negative then "-inf" else "inf"
  | finite negative significand exponent =>
    let sign := if negative then "-" else ""
    if significand = 0 then sign ++ "0.0"
    else
      let (n, scale) := shortest form.roundsUp significand exponent
      let digits := Nat.toDigits 10 n
      sign ++ if form.isPositional (digits.length + scale) then positional digits scale
        else scientific digits scale

end MenuOutline.Binary64
