import MenuOutline.Datum.Basic
import MenuOutline.Decimal.Stepwise
import MenuOutline.Text.Scan

-- Data read from JSON. Members are put in the order of their keys; of equal keys the last one
-- counts. A number without point and exponent is an integer as long as it fits 64 bits; any other
-- is made from as many of its digits as fit 64 bits. Lists and tables may nest to any depth: there
-- is no limit of 128 levels, which other readers have. What is proved about reading values back
-- starts from data, not from their texts.

namespace MenuOutline.Json

def isSpace (c : Char) : Bool :=
  c == ' ' || c == '\t' || c == '\n' || c == '\r'

def skipSpace (cs : List Char) : List Char :=
  cs.dropWhile isSpace

def hexValue? (c : Char) : Option Nat :=
  if c.isDigit then some (c.toNat - '0'.toNat)
  else if 'a' ≤ c ∧ c ≤ 'f' then some (c.toNat - 'a'.toNat + 10)
  else if 'A' ≤ c ∧ c ≤ 'F' then some (c.toNat - 'A'.toNat + 10)
  else none

-- Four hexadecimal digits, and the rest.
def readUnit : List Char → Option (Nat × List Char)
  | a :: b :: c :: d :: cs => do
    let value := ((← hexValue? a) * 16 + (← hexValue? b)) * 256 + (← hexValue? c) * 16
    return (value + (← hexValue? d), cs)
  | _ => none

-- A character given by one UTF-16 unit or by a pair of surrogates.
def readCode (cs : List Char) : Option (Char × List Char) := do
  let (unit, rest) ← readUnit cs
  if unit < 0xD800 ∨ 0xDFFF < unit then
    return (Char.ofNat unit, rest)
  else if unit < 0xDC00 then
    let (low, rest) ← readUnit (← Text.after? ['\\', 'u'] rest)
    if 0xDC00 ≤ low ∧ low ≤ 0xDFFF then
      return (Char.ofNat (0x10000 + (unit - 0xD800) * 0x400 + (low - 0xDC00)), rest)
    else none
  else none

def shortEscape? (c : Char) : Option Char :=
  match c with
  | '"' => some '"'
  | '\\' => some '\\'
  | '/' => some '/'
  | 'b' => some '\x08'
  | 'f' => some '\x0c'
  | 'n' => some '\n'
  | 'r' => some '\r'
  | 't' => some '\t'
  | _ => none

-- The characters of a text up to its closing quote, in reverse before `acc`.
def readChars (acc : List Char) : Nat → List Char → Option (String × List Char)
  | _ + 1, '"' :: cs => some (.ofList acc.reverse, cs)
  | fuel + 1, '\\' :: 'u' :: cs => do
    let (c, rest) ← readCode cs
    readChars (c :: acc) fuel rest
  | fuel + 1, '\\' :: e :: cs => do readChars ((← shortEscape? e) :: acc) fuel cs
  | fuel + 1, c :: cs => if c.toNat < 0x20 ∨ c = '\\' then none else readChars (c :: acc) fuel cs
  | _, _ => none

def digitsValue (ds : List Char) : Nat :=
  ds.foldl (fun n d => n * 10 + (d.toNat - '0'.toNat)) 0

-- Takes further digits up into a number as long as it fits 64 bits, and gives those left.
def takeDigits (n : Nat) : List Char → Nat × List Char
  | [] => (n, [])
  | d :: ds =>
    let next := n * 10 + (d.toNat - '0'.toNat)
    if next < UInt64.size then takeDigits next ds else (n, d :: ds)

-- The number with these digits before and after its point, times a power of ten.
def float? (negative : Bool) (whole fraction : List Char) (power : Int) : Option Binary64 :=
  let (n, rest) := takeDigits 0 whole
  let (n, unused) := takeDigits n fraction
  let scale : Int := rest.length - (fraction.length - unused.length : Nat)
  Binary64.ofDecimalStepwise? negative n (scale + power)

-- The fraction after a point, which has at least one digit.
def readFraction : List Char → Option (List Char × List Char)
  | '.' :: cs =>
    let (digits, rest) := cs.span Char.isDigit
    if digits.isEmpty then none else some (digits, rest)
  | cs => some ([], cs)

def readExponent : List Char → Option (Option Int × List Char)
  | e :: cs =>
    if e = 'e' ∨ e = 'E' then
      let (negative, cs) := match cs with
        | '-' :: cs => (true, cs)
        | '+' :: cs => (false, cs)
        | cs => (false, cs)
      let (digits, rest) := cs.span Char.isDigit
      let n : Int := digitsValue digits
      if digits.isEmpty then none else some (some (if negative then -n else n), rest)
    else some (none, e :: cs)
  | [] => some (none, [])

-- An integer of 64 bits, with or without sign.
def fitsInteger (n : Int) : Bool :=
  Int64.minValue.toInt ≤ n && n < UInt64.size

def readNumber (negative : Bool) (cs : List Char) : Option (Datum × List Char) := do
  let (whole, rest) := cs.span Char.isDigit
  if whole.isEmpty ∨ (whole.length ≠ 1 ∧ whole.head? = some '0') then none
  else
    let (fraction, rest) ← readFraction rest
    let (exponent, rest) ← readExponent rest
    let n : Int := digitsValue whole
    let n := if negative then -n else n
    if fraction.isEmpty ∧ exponent.isNone ∧ fitsInteger n ∧ ¬(negative ∧ n = 0) then
      return (.int n, rest)
    else
      return (.float (← float? negative whole fraction (exponent.getD 0)), rest)

mutual

def readDatum : Nat → List Char → Option (Datum × List Char)
  | 0, _ => none
  | fuel + 1, cs =>
    match skipSpace cs with
    | '"' :: cs => (readChars [] (cs.length + 1) cs).map fun (s, rest) => (.text s, rest)
    | '[' :: cs =>
      match skipSpace cs with
      | ']' :: rest => some (.list [], rest)
      | cs => (readItems [] fuel cs).map fun (items, rest) => (.list items, rest)
    | '\x7b' :: cs =>
      match skipSpace cs with
      | '\x7d' :: rest => some (.table [], rest)
      | cs => (readMembers [] fuel cs).map fun (ms, rest) => (.table ms, rest)
    | '-' :: cs => readNumber true cs
    | c :: cs =>
      if c.isDigit then readNumber false (c :: cs)
      else
        ((Text.after? "null".toList (c :: cs)).map (Datum.null, ·)).or <|
        ((Text.after? "true".toList (c :: cs)).map (Datum.bool true, ·)).or <|
        (Text.after? "false".toList (c :: cs)).map (Datum.bool false, ·)
    | [] => none

-- Items up to the closing bracket, in reverse before `acc`.
def readItems (acc : List Datum) : Nat → List Char → Option (List Datum × List Char)
  | 0, _ => none
  | fuel + 1, cs => do
    let (d, rest) ← readDatum fuel cs
    match skipSpace rest with
    | ',' :: rest => readItems (d :: acc) fuel rest
    | ']' :: rest => return ((d :: acc).reverse, rest)
    | _ => none

def readMembers (acc : Keyed Datum) : Nat → List Char → Option (Keyed Datum × List Char)
  | 0, _ => none
  | fuel + 1, cs =>
    match skipSpace cs with
    | '"' :: cs => do
      let (key, rest) ← readChars [] (cs.length + 1) cs
      match skipSpace rest with
      | ':' :: rest => do
        let (d, rest) ← readDatum fuel rest
        match skipSpace rest with
        | ',' :: rest => readMembers (acc.insert key d) fuel rest
        | '\x7d' :: rest => return (acc.insert key d, rest)
        | _ => none
      | _ => none
    | _ => none

end

-- The datum that the whole text stands for.
def read? (s : String) : Option Datum := do
  let cs := s.toList
  let (d, rest) ← readDatum (2 * cs.length + 1) cs
  if (skipSpace rest).isEmpty then return d else none

end MenuOutline.Json
