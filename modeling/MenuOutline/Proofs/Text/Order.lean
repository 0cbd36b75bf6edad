import MenuOutline.Text.Decomposition
import Mathlib

-- The canonical order of marks: what `insert` and `order` do to a text, and where they stop.

namespace MenuOutline.Text.Decomposition

variable {c d : Char} {cs ds bases : List Char}

-- Whether two neighbours may stay as they are. Only a mark of a lower class goes in front.
def InOrder (c d : Char) : Prop :=
  ¬(0 < combiningClass d ∧ combiningClass d < combiningClass c)

theorem insert_eq_cons (h : ∀ d ∈ cs.head?, InOrder c d) : insert c cs = c :: cs := by
  cases cs
  case nil       => rfl
  case cons d ds => exact if_neg (h d rfl)

theorem order_append (cs ds : List Char) : order (cs ++ ds) = cs.foldr insert (order ds) :=
  List.foldr_append

-- Marks of different classes may come in either order.
theorem insert_insert (hc : 0 < combiningClass c) (hd : 0 < combiningClass d)
    (h : combiningClass c ≠ combiningClass d) (cs : List Char) :
    insert c (insert d cs) = insert d (insert c cs) := by
  induction cs
  case nil => grind [insert]
  case cons e es hi => grind [insert]

-- A base stays where it is, and stops the marks in front of it.
theorem order_cons_base (hd : combiningClass d = 0) (cs : List Char) :
    order (d :: cs) = d :: order cs :=
  insert_eq_cons fun e _ hn => absurd hn.right (by omega)

theorem insert_append_base (hd : combiningClass d = 0) :
    insert c (cs ++ d :: ds) = insert c cs ++ d :: ds := by
  induction cs
  case nil => simp [insert, hd]
  case cons e es hi =>
    by_cases he : 0 < combiningClass e ∧ combiningClass e < combiningClass c
    case pos => simp [insert, he, hi]
    case neg => simp [insert, he]

theorem order_append_cons_base (hd : combiningClass d = 0) (cs ds : List Char) :
    order (cs ++ d :: ds) = order cs ++ d :: order ds := by
  induction cs
  case nil          => exact order_cons_base hd ds
  case cons c cs hi => exact (congrArg (insert c) hi).trans (insert_append_base hd)

theorem order_bases_append (h : ∀ c ∈ bases, combiningClass c = 0) (ds : List Char) :
    order (bases ++ ds) = bases ++ order ds := by
  induction bases
  case nil => rfl
  case cons d bases hi =>
    have ⟨hd, hbs⟩ := List.forall_mem_cons.mp h
    rw [List.cons_append, order_cons_base hd, hi hbs, List.cons_append]

-- No mark passes the bases between two texts.
theorem order_append_bases (h : ∀ c ∈ bases, combiningClass c = 0) (hn : bases ≠ [])
    (cs ds : List Char) : order (cs ++ bases ++ ds) = order cs ++ bases ++ order ds := by
  cases bases
  case nil => exact absurd rfl hn
  case cons d bases =>
    have ⟨hd, hbs⟩ := List.forall_mem_cons.mp h
    simp [order_append_cons_base hd, order_bases_append hbs]

end MenuOutline.Text.Decomposition
