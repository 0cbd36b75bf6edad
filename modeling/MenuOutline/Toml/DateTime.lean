import MenuOutline.Toml.Char

-- Dates and times of settings files. No setting is a date, so a date-time is kept as its usual text:
-- the parts that it has, with a capital T between date and time.

namespace MenuOutline.Toml

def isLeapYear (year : Nat) : Bool :=
  year % 4 == 0 && (year % 100 != 0 || year % 400 == 0)

def daysInMonth (year month : Nat) : Nat :=
  if month = 2 then (if isLeapYear year then 29 else 28)
  else if month = 4 ∨ month = 6 ∨ month = 9 ∨ month = 11 then 30
  else 31

def number? (cs : List Char) : Option Nat :=
  if cs.all Char.isDigit then some (digitsValue 10 cs) else none

-- Whether the text is a date of the calendar.
def isDate : List Char → Bool
  | [y₁, y₂, y₃, y₄, '-', m₁, m₂, '-', d₁, d₂] =>
    match number? [y₁, y₂, y₃, y₄], number? [m₁, m₂], number? [d₁, d₂] with
    | some year, some month, some day =>
      1 ≤ month && month ≤ 12 && 1 ≤ day && day ≤ daysInMonth year month
    | _, _, _ => false
  | _ => false

-- Whether the text is a time of day to the second, which may be a leap second.
def isTime : List Char → Bool
  | [h₁, h₂, ':', m₁, m₂, ':', s₁, s₂] =>
    match number? [h₁, h₂], number? [m₁, m₂], number? [s₁, s₂] with
    | some hour, some minute, some second => hour ≤ 23 && minute ≤ 59 && second ≤ 60
    | _, _, _ => false
  | _ => false

-- The fraction of a second to nine places, without zeros at the end.
def fractionText (digits : List Char) : List Char :=
  let kept := ((digits.take 9).reverse.dropWhile (· == '0')).reverse
  if kept.isEmpty then [] else '.' :: kept

-- The text of an offset; an offset of nothing is positive.
def offset? : List Char → Option (List Char)
  | [] => some []
  | ['Z'] | ['z'] => some ['Z']
  | [sign, h₁, h₂, ':', m₁, m₂] =>
    match number? [h₁, h₂], number? [m₁, m₂] with
    | some hour, some minute =>
      if (sign = '+' ∨ sign = '-') ∧ hour ≤ 23 ∧ minute ≤ 59 then
        some [if hour = 0 ∧ minute = 0 then '+' else sign, h₁, h₂, ':', m₁, m₂]
      else none
    | _, _ => none
  | _ => none

-- The text of a time with its fraction, and what follows.
def readTime (cs : List Char) : Option (List Char × List Char) :=
  let (time, rest) := cs.splitAt 8
  if isTime time then
    match rest with
    | '.' :: rest =>
      let (digits, rest) := rest.span Char.isDigit
      if digits.isEmpty then none else some (time ++ fractionText digits, rest)
    | rest => some (time, rest)
  else none

def isTimeMark (c : Char) : Bool :=
  c == 'T' || c == 't' || c == ' '

-- The text of a date, of a time, or of both with or without an offset.
def dateTime? (token : List Char) : Option (List Char) :=
  let (date, rest) := token.splitAt 10
  if isDate date then
    match rest with
    | [] => some date
    | mark :: rest =>
      if isTimeMark mark then do
        let (time, rest) ← readTime rest
        return date ++ 'T' :: time ++ (← offset? rest)
      else none
  else
    match readTime token with
    | some (time, []) => some time
    | _ => none

end MenuOutline.Toml
