-- Lists of pairs in ascending order of their keys, each key once.

namespace MenuOutline

abbrev Keyed (α : Type) := List (String × α)

namespace Keyed

variable {α : Type}

-- Gives a key a value, in the place of the one that it had.
def insert (key : String) (a : α) : Keyed α → Keyed α
  | [] => [(key, a)]
  | (k, b) :: ps =>
    if key < k then (key, a) :: (k, b) :: ps
    else if key = k then (key, a) :: ps
    else (k, b) :: insert key a ps

@[simp] theorem lookup_insert (key : String) (a : α) (ps : Keyed α) :
    (insert key a ps).lookup key = some a := by
  induction ps with
  | nil => simp [insert]
  | cons p ps ih =>
    obtain ⟨k, b⟩ := p
    simp only [insert]
    split
    · simp
    · split
      · simp
      · rename_i h
        simp [List.lookup_cons, beq_false_of_ne h, ih]

theorem lookup_insert_of_ne {key k : String} (h : k ≠ key) (a : α) (ps : Keyed α) :
    (insert key a ps).lookup k = ps.lookup k := by
  induction ps with
  | nil => simp [insert, List.lookup_cons, beq_false_of_ne h]
  | cons p ps ih =>
    obtain ⟨l, b⟩ := p
    simp only [insert]
    split
    · simp [List.lookup_cons, beq_false_of_ne h]
    · split
      · rename_i hl
        simp [List.lookup_cons, beq_false_of_ne h, ← hl]
      · simp [List.lookup_cons, ih]

-- Gathers pairs; of equal keys the last one counts.
def ofList (ps : List (String × α)) : Keyed α :=
  ps.foldl (fun acc (key, a) => acc.insert key a) []

end Keyed

end MenuOutline
