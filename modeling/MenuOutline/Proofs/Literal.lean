import MenuOutline.Site.Literal

namespace MenuOutline.Literal

variable {special : List Char} {c : Char}

-- What the inside of a literal between double quotes stands for. A backslash that stands before any
-- other character has a meaning of its own there, and is refused.
def ofDouble? : List Char → Option (List Char)
  | [] => some []
  | ['\\'] => none
  | '\\' :: c :: cs => if doubleSpecial.contains c then (ofDouble? cs).map (c :: ·) else none
  | c :: cs => (ofDouble? cs).map (c :: ·)

-- What the inside of a literal between single quotes stands for. A backslash before any other
-- character stands for itself.
def ofSingle : List Char → List Char
  | [] => []
  | '\\' :: c :: cs =>
    if singleSpecial.contains c then c :: ofSingle cs else '\\' :: c :: ofSingle cs
  | c :: cs => c :: ofSingle cs

-- Whether a dollar sign stands in the inside of a literal without a backslash of its own.
def hasBareDollar : List Char → Bool
  | [] => false
  | '\\' :: _ :: cs => hasBareDollar cs
  | c :: cs => c == '$' || hasBareDollar cs

theorem escape_cons_of_mem (h : c ∈ special) (cs : List Char) :
    escape special (c :: cs) = '\\' :: c :: escape special cs := by
  simp [escape, h]

theorem escape_cons_of_notMem (h : c ∉ special) (cs : List Char) :
    escape special (c :: cs) = c :: escape special cs := by
  simp [escape, h]

theorem escape_eq_self {cs : List Char} (h : ∀ c ∈ cs, c ∉ special) : escape special cs = cs := by
  induction cs
  case nil => rfl
  case cons c cs hi =>
    have ⟨hc, hcs⟩ := List.forall_mem_cons.mp h
    rw [escape_cons_of_notMem hc, hi hcs]

theorem ofDouble?_escape (cs : List Char) : ofDouble? (escape doubleSpecial cs) = some cs := by
  induction cs
  case nil => rfl
  case cons c cs hi =>
    by_cases h : c ∈ doubleSpecial
    case pos =>
      rw [escape_cons_of_mem h]
      simp [ofDouble?, h, hi]
    case neg =>
      have hb : c ≠ '\\' := by rintro rfl; exact h (.head _)
      rw [escape_cons_of_notMem h]
      simp [ofDouble?, hb, hi]

theorem ofSingle_escape (cs : List Char) : ofSingle (escape singleSpecial cs) = cs := by
  induction cs
  case nil => rfl
  case cons c cs hi =>
    by_cases h : c ∈ singleSpecial
    case pos =>
      rw [escape_cons_of_mem h]
      simp [ofSingle, h, hi]
    case neg =>
      have hb : c ≠ '\\' := by rintro rfl; exact h (.head _)
      rw [escape_cons_of_notMem h]
      simp [ofSingle, hb, hi]

theorem hasBareDollar_escape (cs : List Char) :
    hasBareDollar (escape doubleSpecial cs) = false := by
  induction cs
  case nil => rfl
  case cons c cs hi =>
    by_cases h : c ∈ doubleSpecial
    case pos =>
      rw [escape_cons_of_mem h]
      simp [hasBareDollar, hi]
    case neg =>
      have hb : c ≠ '\\' := by rintro rfl; exact h (.head _)
      have hd : c ≠ '$' := by rintro rfl; exact h (by decide)
      rw [escape_cons_of_notMem h]
      simp [hasBareDollar, hb, hd, hi]

end MenuOutline.Literal
