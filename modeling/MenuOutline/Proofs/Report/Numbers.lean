import MenuOutline.Report
import Mathlib

-- The numbers that are read off a line. A count with its noun gives its number and no other.

namespace MenuOutline

namespace Report

variable {cs ds rest : List Char} {c : Char} {s t singular plural : String} {n : Nat}

def numbersIn (cs : List Char) : List Nat :=
  ((cs.splitOnP (!·.isDigit)).filter (· ≠ [])).map (Nat.ofDigitChars 10 · 0)

-- The numbers in a line, each for a run of digits.
def numbers (line : String) : List Nat :=
  numbersIn line.toList

theorem numbersIn_append_cons (h : c.isDigit = false) :
    numbersIn (cs ++ c :: rest) = numbersIn cs ++ numbersIn rest := by
  have hc : (!c.isDigit) = true := by simp [h]
  rw [numbersIn, List.splitOnP_append_cons (p := (!·.isDigit)) cs rest hc, List.filter_append,
    List.map_append]
  rfl

theorem numbersIn_digits (hn : ds ≠ []) (h : ∀ c ∈ ds, c.isDigit) :
    numbersIn ds = [Nat.ofDigitChars 10 ds 0] := by
  have hs : ds.splitOnP (!·.isDigit) = [ds] :=
    List.splitOnP_eq_singleton fun c hc => by simp [h c hc]
  simp [numbersIn, hs, hn]

-- What is no digit only keeps numbers apart.
theorem numbersIn_append (h : cs.all (!·.isDigit)) : numbersIn (cs ++ rest) = numbersIn rest := by
  induction cs
  case nil => rfl
  case cons c cs hi =>
    have ⟨hc, hcs⟩ := Bool.and_eq_true_iff.mp h
    have hc : c.isDigit = false := by simpa using hc
    rw [List.cons_append, ← List.nil_append (c :: (cs ++ rest)), numbersIn_append_cons hc]
    exact hi hcs

theorem numbersIn_toString (n : Nat) : numbersIn (toString n).toList = [n] := by
  have hl : (toString n).toList = Nat.toDigits 10 n := Nat.toList_repr
  have hd : ∀ c ∈ Nat.toDigits 10 n, c.isDigit := fun c =>
    Nat.isDigit_of_mem_toDigits (by decide) (by decide)
  rw [hl, numbersIn_digits Nat.toDigits_ne_nil hd]
  exact congrArg ([·]) <| Nat.ofDigitChars_toDigits (by decide) (by decide)

-- A text without a number.
def isWords (s : String) : Bool :=
  s.toList.all (!·.isDigit)

theorem numbers_words_append (h : isWords s) : numbers (s ++ t) = numbers t := by
  rw [numbers, String.toList_append, numbersIn_append h, numbers]

theorem numbers_words (h : isWords s) : numbers s = [] := by
  have h := numbers_words_append (t := "") h
  rwa [String.append_empty] at h

theorem numbers_count_append (hs : isWords singular) (hp : isWords plural) :
    numbers (count n singular plural ++ t) = n :: numbers t := by
  have hw : isWords (if n = 1 then singular else plural) := by
    split <;> assumption
  have hc : (count n singular plural ++ t).toList = (toString n).toList ++ ' ' ::
      ((if n = 1 then singular else plural).toList ++ t.toList) := by
    simp [count]
  rw [numbers, hc, numbersIn_append_cons rfl, numbersIn_toString, numbersIn_append hw]
  rfl

theorem numbers_count (hs : isWords singular) (hp : isWords plural) :
    numbers (count n singular plural) = [n] := by
  have h := numbers_count_append (n := n) (t := "") hs hp
  rwa [String.append_empty] at h

end Report

end MenuOutline
