import MenuOutline.Outline
import Mathlib.Data.List.Chain

namespace MenuOutline.Outline

variable {α β : Type} {o o₁ o₂ : Outline α} {a : α} {n d : Nat} {x : α × Nat}

def map (f : α → β) : Outline α → Outline β :=
  mapWithBelow fun a _ => f a

-- The entries in order, each with its depth. The entries at the top have depth `d`.
def withDepth (d : Nat) : Outline α → List (α × Nat)
  | nil => []
  | cons a below after => (a, d) :: (below.withDepth (d + 1) ++ after.withDepth d)

-- The count of levels.
def height : Outline α → Nat
  | nil => 0
  | cons _ below after => max (below.height + 1) after.height

-- The count of entries on the way down along the last ones.
def spine : Outline α → Nat
  | nil => 0
  | cons _ below nil => below.spine + 1
  | cons _ _ after => after.spine

@[simp] theorem map_nil (f : α → β) : (nil : Outline α).map f = nil :=
  rfl

@[simp] theorem map_cons (f : α → β) (a : α) (below after : Outline α) :
    (cons a below after).map f = cons (f a) (below.map f) (after.map f) :=
  rfl

theorem map_map {γ : Type} (g : β → γ) (f : α → β) (o : Outline α) :
    (o.map f).map g = o.map (g ∘ f) := by
  induction o
  case nil => rfl
  case cons a below after hb ha => simp only [map_cons, hb, ha, Function.comp]

theorem length_map (f : α → β) (o : Outline α) : (o.map f).length = o.length := by
  induction o
  case nil => rfl
  case cons a below after hb ha => simp only [map_cons, length, ha]

theorem entries_map (f : α → β) (o : Outline α) : (o.map f).entries = o.entries.map f := by
  induction o
  case nil => rfl
  case cons a below after hb ha =>
    simp only [map_cons, entries, hb, ha, List.map_cons, List.map_append]

theorem mem_entries_cons {b : α} {below after : Outline α} :
    b ∈ (cons a below after).entries ↔ b = a ∨ b ∈ below.entries ∨ b ∈ after.entries := by
  simp [entries]

theorem entries_eq_withDepth : o.entries = (o.withDepth d).map Prod.fst := by
  induction o generalizing d
  case nil => rfl
  case cons a below after hb ha =>
    simp only [entries, withDepth, List.map_cons, List.map_append]
    rw [← hb, ← ha]

theorem withDepth_map (f : α → β) :
    (o.map f).withDepth d = (o.withDepth d).map (Prod.map f id) := by
  induction o generalizing d
  case nil => rfl
  case cons a below after hb ha =>
    simp only [map_cons, withDepth, hb, ha, List.map_cons, List.map_append, Prod.map, id]

theorem le_of_mem_withDepth (h : x ∈ o.withDepth d) : d ≤ x.2 := by
  induction o generalizing d <;> simp only [withDepth, List.not_mem_nil, List.mem_cons,
    List.mem_append] at h
  case cons a below after hb ha =>
    obtain rfl | h | h := h
    · exact Nat.le_refl d
    · exact Nat.le_of_succ_le (hb h)
    · exact ha h

theorem lt_of_mem_withDepth (h : x ∈ o.withDepth d) : x.2 < d + o.height := by
  induction o generalizing d <;> simp only [withDepth, List.not_mem_nil, List.mem_cons,
    List.mem_append] at h
  case cons a below after hb ha =>
    simp only [height]
    obtain rfl | h | h := h
    · show d < _
      omega
    · have := hb h
      omega
    · have := ha h
      omega

-- The way down along the last entries ends at the very last one.
theorem spine_add : o.spine + d = (o.withDepth d).getLast?.elim d (·.2 + 1) := by
  fun_induction spine o generalizing d
  case case1 => simp [withDepth]
  case case2 a below hi =>
    have h := hi (d := d + 1)
    simp only [withDepth, List.append_nil, List.getLast?_cons]
    cases hl : (below.withDepth (d + 1)).getLast? <;> simp [hl] at h ⊢ <;> omega
  case case3 a below after hn hi =>
    cases after
    case nil => exact absurd rfl hn
    case cons b below' after' =>
      rw [hi (d := d)]
      simp [withDepth, List.getLast?_cons, List.getLast?_append]

theorem append?_isSome_iff : (o.append? a n).isSome ↔ n ≤ o.spine := by
  fun_induction append? a n o
  case case1 => simp
  case case2 => simp [spine]
  case case3 b below after hi => simp [hi]
  case case4 level b below hi => simp [hi, spine]
  case case5 level b below after hn hi =>
    simp [hi, spine]

-- What is appended comes last, at the depth asked for.
theorem withDepth_append? (h : o.append? a n = some o₁) :
    o₁.withDepth d = o.withDepth d ++ [(a, d + n)] := by
  fun_induction append? a n o generalizing o₁ d
  case case1 => cases h; rfl
  case case2 => cases h
  case case3 b below after hi =>
    have ⟨after', h', he⟩ := Option.map_eq_some_iff.mp h
    subst he
    simp [withDepth, hi h']
  case case4 level b below hi =>
    have ⟨below', h', he⟩ := Option.map_eq_some_iff.mp h
    subst he
    simp only [withDepth, hi h', List.append_nil, List.cons_append]
    rw [Nat.add_right_comm, Nat.add_assoc]
  case case5 level b below after hn hi =>
    have ⟨after', h', he⟩ := Option.map_eq_some_iff.mp h
    subst he
    simp [withDepth, hi h']

theorem snd_of_head?_withDepth (h : x ∈ (o.withDepth d).head?) : x.2 = d := by
  cases o <;> simp only [withDepth, List.head?_nil, List.head?_cons, Option.mem_def] at h
  case nil => contradiction
  case cons a below after => cases h; rfl

-- No entry is more than one level below the one before it.
theorem isChain_withDepth (o : Outline α) (d : Nat) :
    (o.withDepth d).IsChain fun x y => y.2 ≤ x.2 + 1 := by
  induction o generalizing d
  case nil => exact .nil
  case cons a below after hb ha =>
    refine .cons (.append (hb (d + 1)) (ha d) fun x hx y hy => ?_) fun x hx => ?_
    · have := le_of_mem_withDepth (List.mem_of_getLast? hx)
      have := snd_of_head?_withDepth hy
      omega
    · rw [List.head?_append, Option.mem_def, Option.or_eq_some_iff] at hx
      obtain hx | ⟨_, hx⟩ := hx
      · exact Nat.le_of_eq (snd_of_head?_withDepth hx)
      · exact Nat.le_succ_of_le (Nat.le_of_eq (snd_of_head?_withDepth hx))

private theorem lt_succ_of_mem_head? {rest : List (α × Nat)} (h : ∀ x ∈ rest.head?, x.2 < d) :
    ∀ x ∈ (o.withDepth d ++ rest).head?, x.2 < d + 1 := by
  cases o
  case nil => exact fun x hx => Nat.lt_succ_of_lt (h x hx)
  case cons a below after => simp [withDepth]

-- What comes after an outline does not hide where the outline ends, if it starts higher up.
theorem withDepth_append_inj {rest₁ rest₂ : List (α × Nat)}
    (h₁ : ∀ x ∈ rest₁.head?, x.2 < d) (h₂ : ∀ x ∈ rest₂.head?, x.2 < d)
    (h : o₁.withDepth d ++ rest₁ = o₂.withDepth d ++ rest₂) : o₁ = o₂ ∧ rest₁ = rest₂ := by
  induction o₁ generalizing o₂ d rest₁ rest₂
  case nil =>
    cases o₂
    case nil => exact ⟨rfl, h⟩
    case cons b below₂ after₂ =>
      have hb : (b, d) ∈ rest₁.head? := congrArg List.head? h
      exact absurd (h₁ _ hb) (Nat.lt_irrefl d)
  case cons a below₁ after₁ hb ha =>
    cases o₂
    case nil =>
      have ha : (a, d) ∈ rest₂.head? := congrArg List.head? h.symm
      exact absurd (h₂ _ ha) (Nat.lt_irrefl d)
    case cons b below₂ after₂ =>
      simp only [withDepth, List.cons_append, List.append_assoc, List.cons.injEq,
        Prod.mk.injEq] at h
      have ⟨⟨hab, _⟩, h⟩ := h
      have ⟨hb, h⟩ := hb (lt_succ_of_mem_head? h₁) (lt_succ_of_mem_head? h₂) h
      have ⟨ha, h⟩ := ha h₁ h₂ h
      exact ⟨by rw [hab, hb, ha], h⟩

-- The depths alone tell the shape.
theorem withDepth_injective (h : o₁.withDepth d = o₂.withDepth d) : o₁ = o₂ := by
  have h' : o₁.withDepth d ++ [] = o₂.withDepth d ++ [] := by rw [h]
  exact (withDepth_append_inj (by simp) (by simp) h').left

end MenuOutline.Outline
