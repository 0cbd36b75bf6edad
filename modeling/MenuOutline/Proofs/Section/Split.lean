import MenuOutline.Section
import MenuOutline.Proofs.Text.Trim

namespace MenuOutline.Section

variable {ls rest : List SourceLine} {css dss : List (List Char)} {n : Nat}

theorem map_text_numberFrom : (numberFrom n css).map (·.text) = css := by
  induction css generalizing n
  case nil => rfl
  case cons cs css hi => rw [numberFrom, List.map_cons, hi]

theorem numberFrom_append :
    numberFrom n (css ++ dss) = numberFrom n css ++ numberFrom (n + css.length) dss := by
  induction css generalizing n
  case nil => rfl
  case cons cs css hi =>
    rw [List.cons_append, numberFrom, hi, numberFrom, List.length_cons, Nat.add_right_comm,
      ← Nat.add_assoc]
    rfl

theorem numberFrom_ne_nil (h : css ≠ []) : numberFrom n css ≠ [] := by
  cases css
  case nil         => contradiction
  case cons cs css => exact List.cons_ne_nil _ _

theorem consNonEmpty_of_ne_nil {s : Section} {sections : List Section} (h : s ≠ []) :
    consNonEmpty s sections = s :: sections := by
  rw [consNonEmpty, if_neg]
  simpa using h

-- Lines that are neither delimiters nor blank stay together.
theorem splitLines_append
    (h : ∀ l ∈ ls, isDelimiter l.text = false ∧ Text.isBlankText l.text = false) :
    splitLines (ls ++ rest) = (ls ++ (splitLines rest).1, (splitLines rest).2) := by
  induction ls
  case nil => rfl
  case cons l ls hi =>
    have ⟨⟨hd, hb⟩, hls⟩ := List.forall_mem_cons.mp h
    simp [splitLines, hi hls, hd, hb]

theorem isDelimiter_replicate (h : 10 ≤ n) : isDelimiter (List.replicate n '-') := by
  have ht : Text.Trimmed (List.replicate n '-') := by
    constructor <;> cases n <;> simp [List.head?_replicate, List.getLast?_replicate, Text.isBlank]
  simp [isDelimiter, Text.trim_eq_self ht, h]

end MenuOutline.Section
