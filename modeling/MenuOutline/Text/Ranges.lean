-- Sets of characters, given as closed ranges of code points.

namespace MenuOutline.Text

-- First and last code point of each range, in ascending order.
abbrev Ranges := List (Nat × Nat)

namespace Ranges

def contains (rs : Ranges) (c : Char) : Bool :=
  rs.any fun (first, last) => first ≤ c.toNat && c.toNat ≤ last

theorem contains_iff {rs : Ranges} {c : Char} :
    rs.contains c ↔ ∃ r ∈ rs, r.1 ≤ c.toNat ∧ c.toNat ≤ r.2 := by
  simp [contains]

end Ranges

end MenuOutline.Text
