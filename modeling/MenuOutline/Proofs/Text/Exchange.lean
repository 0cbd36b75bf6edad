import Mathlib.Data.List.Basic

-- One character in the place of another.

namespace MenuOutline.Text

variable {a b : Char} {cs : List Char}

-- A text with `b` wherever it had `a`.
def exchange (a b : Char) (cs : List Char) : List Char :=
  cs.map fun c => if c = a then b else c

theorem exchange_eq_self (h : a ∉ cs) : exchange a b cs = cs :=
  (List.map_congr_left fun _ hc => if_neg <| ne_of_mem_of_not_mem hc h).trans cs.map_id

theorem notMem_exchange (h : a ≠ b) : a ∉ exchange a b cs := by
  intro hm
  have ⟨c, _, hc⟩ := List.mem_map.mp hm
  split at hc
  case isTrue     => exact h hc.symm
  case isFalse hn => exact hn hc

-- It can be undone where there was no `b` before.
theorem exchange_exchange (h : b ∉ cs) : exchange b a (exchange a b cs) = cs := by
  rw [exchange, exchange, List.map_map]
  refine (List.map_congr_left fun c hc => ?_).trans cs.map_id
  have hn : c ≠ b := ne_of_mem_of_not_mem hc h
  by_cases ha : c = a <;> simp [ha, hn]

end MenuOutline.Text
