import MenuOutline.Text.Blank
import Mathlib

-- Words: what they hold of a text, and how a text falls apart at its blanks.

namespace MenuOutline.Text

variable {c : Char} {word cs ds blanks : List Char}

-- The word that is being read and those after it hold all that is not blank.
theorem flatten_wordsAfter (word cs : List Char) :
    (wordsAfter word cs).flatten = word ++ cs.filter (!isBlank ·) := by
  have hw (v : List Char) : (if v = [] then [] else [v]).flatten = v := by
    cases v <;> simp
  induction cs generalizing word
  case nil => simp [wordsAfter, hw]
  case cons c cs hi =>
    by_cases hc : isBlank c
    case pos => simp [wordsAfter, hc, hw, hi]
    case neg => simp [wordsAfter, hc, hi]

theorem flatten_words (cs : List Char) : (words cs).flatten = cs.filter (!isBlank ·) :=
  flatten_wordsAfter [] cs

-- A blank ends the word in front of it.
theorem wordsAfter_append (hc : isBlank c) (word cs ds : List Char) :
    wordsAfter word (cs ++ c :: ds) = wordsAfter word cs ++ words ds := by
  induction cs generalizing word
  case nil => simp [wordsAfter, words, hc]
  case cons d cs hi =>
    by_cases hd : isBlank d
    case pos => simp [wordsAfter, hd, hi]
    case neg => simp [wordsAfter, hd, hi]

theorem words_append_cons (hc : isBlank c) (cs ds : List Char) :
    words (cs ++ c :: ds) = words cs ++ words ds :=
  wordsAfter_append hc [] cs ds

theorem words_blanks_append (h : ∀ c ∈ blanks, isBlank c) (ds : List Char) :
    words (blanks ++ ds) = words ds := by
  induction blanks
  case nil => rfl
  case cons c blanks hi =>
    have ⟨hc, hbs⟩ := List.forall_mem_cons.mp h
    exact (words_append_cons hc [] _).trans (hi hbs)

theorem words_append_blanks (h : ∀ c ∈ blanks, isBlank c) (hn : blanks ≠ []) (cs ds : List Char) :
    words (cs ++ blanks ++ ds) = words cs ++ words ds := by
  cases blanks
  case nil => exact absurd rfl hn
  case cons c blanks =>
    have ⟨hc, hbs⟩ := List.forall_mem_cons.mp h
    rw [List.append_assoc, List.cons_append, words_append_cons hc, words_blanks_append hbs]

end MenuOutline.Text
