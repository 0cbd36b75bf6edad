import MenuOutline.Datum.Basic
import MenuOutline.Toml.Char

-- Numbers of settings files, each read from a whole token. Integers have 64 bits and a sign; an
-- underscore may stand between two digits.

namespace MenuOutline.Toml

-- Numbers are shown with all their digits. A tie goes up.
def numberForm : Binary64.Form where
  isPositional _ := true
  roundsUp _ := true

-- Digits of a base without the underscores between them.
def digits? (base : Nat) : List Char → Option (List Char)
  | [] => none
  | [c] => if (digit? base c).isSome then some [c] else none
  | c :: '_' :: cs => if (digit? base c).isSome then (digits? base cs).map (c :: ·) else none
  | c :: cs => if (digit? base c).isSome then (digits? base cs).map (c :: ·) else none

def readSign : List Char → Bool × List Char
  | '-' :: cs => (true, cs)
  | '+' :: cs => (false, cs)
  | cs => (false, cs)

-- A decimal without a zero in front.
def decimal? (cs : List Char) : Option (List Char) :=
  match cs with
  | '0' :: _ :: _ => none
  | cs => digits? 10 cs

def integer? (n : Int) : Option Datum :=
  if Int64.minValue.toInt ≤ n ∧ n ≤ Int64.maxValue.toInt then some (.int n) else none

def readInteger? (token : List Char) : Option Datum :=
  match token with
  | '0' :: 'x' :: cs => (digits? 16 cs).bind fun ds => integer? (digitsValue 16 ds)
  | '0' :: 'o' :: cs => (digits? 8 cs).bind fun ds => integer? (digitsValue 8 ds)
  | '0' :: 'b' :: cs => (digits? 2 cs).bind fun ds => integer? (digitsValue 2 ds)
  | token =>
    let (negative, cs) := readSign token
    (decimal? cs).bind fun ds =>
      let n : Int := digitsValue 10 ds
      integer? (if negative then -n else n)

-- The exponent at the end of a token.
def exponent? : List Char → Option Int
  | [] => some 0
  | _ :: cs =>
    let (negative, cs) := readSign cs
    (digits? 10 cs).map fun ds =>
      let n : Int := digitsValue 10 ds
      if negative then -n else n

def isExponentMark (c : Char) : Bool :=
  c == 'e' || c == 'E'

-- A number too great for 64 bits is refused, and one too small becomes negative infinity.
def float? (x : Binary64) : Option Datum :=
  if x = .infinite false then none else some (.float x)

-- A number with a fraction or an exponent, or one of the special ones.
def readFloat? (token : List Char) : Option Datum :=
  let (negative, cs) := readSign token
  if cs = ['i', 'n', 'f'] then some (.float (.infinite negative))
  else if cs = ['n', 'a', 'n'] then some (.float .nan)
  else
    let (mantissa, power) := cs.span (!isExponentMark ·)
    let (whole, fraction) := mantissa.span (· != '.')
    if fraction.isEmpty ∧ power.isEmpty then none
    else do
      let whole ← decimal? whole
      let fraction ← if fraction.isEmpty then some [] else digits? 10 (fraction.drop 1)
      let power ← exponent? power
      float? (.ofDecimal negative (digitsValue 10 (whole ++ fraction)) (power - fraction.length))

end MenuOutline.Toml
