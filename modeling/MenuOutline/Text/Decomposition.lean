import MenuOutline.Text.Decomposition.Classes
import MenuOutline.Text.Decomposition.Table

-- Canonical decomposition (NFD): every composed character is replaced by its parts, and the marks
-- on one base are put in ascending order of class, equal classes keeping their order.

namespace MenuOutline.Text

namespace Decomposition

-- A Hangul syllable is a leading consonant, a vowel and perhaps a trailing consonant.
def hangul? (n : Nat) : Option (List Nat) :=
  if 0xAC00 ≤ n ∧ n ≤ 0xD7A3 then
    let syllable := n - 0xAC00
    let tail := if syllable % 28 = 0 then [] else [0x11A7 + syllable % 28]
    some ([0x1100 + syllable / 588, 0x1161 + syllable % 588 / 28] ++ tail)
  else none

def table? (n : Nat) : Option (List Nat) :=
  (blocks.find? fun b => b.first ≤ n && n ≤ b.last).bind (·.entries.lookup n)

-- The parts of a character: itself alone unless it is composed.
def parts (c : Char) : List Char :=
  if c.toNat < 0xC0 then [c]
  else match (hangul? c.toNat).or (table? c.toNat) with
    | some codes => codes.map Char.ofNat
    | none => [c]

-- Puts a character in front of ordered ones, a mark after those of a lower class.
def insert (c : Char) : List Char → List Char
  | [] => [c]
  | d :: ds =>
    if 0 < combiningClass d ∧ combiningClass d < combiningClass c then d :: insert c ds
    else c :: d :: ds

def order (cs : List Char) : List Char :=
  cs.foldr insert []

theorem insert_perm (c : Char) (cs : List Char) : (insert c cs).Perm (c :: cs) := by
  fun_induction insert c cs with
  | case1 => rfl
  | case2 d ds _ ih => exact (ih.cons d).trans (.swap c d ds)
  | case3 => rfl

theorem order_perm (cs : List Char) : (order cs).Perm cs := by
  induction cs with
  | nil => rfl
  | cons c cs ih => exact (insert_perm c _).trans (ih.cons c)

end Decomposition

open Decomposition in
def decompose (cs : List Char) : List Char :=
  order (cs.flatMap parts)

-- The combining diacritical marks.
def isDiacritic (c : Char) : Bool :=
  0x0300 ≤ c.toNat && c.toNat ≤ 0x036F

-- The text decomposed and without its diacritics.
def withoutDiacritics (cs : List Char) : List Char :=
  (decompose cs).filter (!isDiacritic ·)

end MenuOutline.Text
