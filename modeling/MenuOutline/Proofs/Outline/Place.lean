import MenuOutline.Proofs.Outline.Depth

namespace MenuOutline.Outline

variable {α β γ : Type} {o₁ : Outline α} {o₂ : Outline β}

-- The entry at a place among those at the top, with what is below it.
def nth? : Outline α → Nat → Option (α × Outline α)
  | nil, _ => none
  | cons a below _, 0 => some (a, below)
  | cons _ _ after, i + 1 => after.nth? i

-- The entry that a path leads to. A path names a place at every level.
def get? (o : Outline α) : List Nat → Option α
  | [] => none
  | [i] => (o.nth? i).map (·.1)
  | i :: j :: path => (o.nth? i).bind (·.2.get? (j :: path))

-- What is left of an outline without its entries.
def shape (o : Outline α) : Outline Unit :=
  o.map fun _ => ()

theorem nth?_map (f : α → β) (i : Nat) :
    (o₁.map f).nth? i = (o₁.nth? i).map fun (a, below) => (f a, below.map f) := by
  induction i generalizing o₁ <;> cases o₁
  case succ.cons i hi a below after => simp [nth?, hi]
  all_goals rfl

theorem get?_map (f : α → β) (path : List Nat) : (o₁.map f).get? path = (o₁.get? path).map f := by
  induction path generalizing o₁
  case nil => rfl
  case cons i path hi =>
    cases path <;> simp only [get?, nth?_map]
    case nil => cases o₁.nth? i <;> rfl
    case cons j path =>
      cases o₁.nth? i
      case none   => rfl
      case some x => exact hi

theorem nth?_pairWith (f : α → Option β → γ) (i : Nat) :
    (pairWith f o₁ o₂).nth? i = (o₁.nth? i).map fun (a, below) =>
      (f a ((o₂.nth? i).map (·.1)), pairWith f below (((o₂.nth? i).map (·.2)).getD nil)) := by
  induction i generalizing o₁ o₂ <;> cases o₁ <;> cases o₂
  case succ.cons.nil i hi a below after => simp [pairWith, nth?, hi]
  case succ.cons.cons i hi a below after b below' after' => simp [pairWith, nth?, hi]
  all_goals rfl

@[simp] theorem get?_nil (path : List Nat) : (nil : Outline α).get? path = none := by
  cases path
  case nil => rfl
  case cons i path => cases path <;> rfl

-- A pair is made of the entries at one and the same path.
theorem get?_pairWith (f : α → Option β → γ) (path : List Nat) :
    (pairWith f o₁ o₂).get? path = (o₁.get? path).map fun a => f a (o₂.get? path) := by
  induction path generalizing o₁ o₂
  case nil => rfl
  case cons i path hi =>
    cases path <;> simp only [get?, nth?_pairWith]
    case nil => cases o₁.nth? i <;> rfl
    case cons j path =>
      cases o₁.nth? i
      case none => rfl
      case some x =>
        simp only [Option.map_some, Option.bind_some, hi]
        cases o₂.nth? i <;> simp

theorem mem_entries_of_pairWith {f : α → Option β → γ} {c : γ}
    (h : c ∈ (pairWith f o₁ o₂).entries) :
    ∃ a ∈ o₁.entries, ∃ b : Option β, (∀ b' ∈ b, b' ∈ o₂.entries) ∧ c = f a b := by
  fun_induction pairWith f o₁ o₂
  case case1 => contradiction
  case case2 a below after b below' after' hb ha =>
    obtain rfl | h | h := mem_entries_cons.mp h
    · exact ⟨a, mem_entries_cons.mpr <| .inl rfl, some b, by simp [entries], rfl⟩
    · obtain ⟨a', ha', b', hb', h⟩ := hb h
      exact ⟨a', mem_entries_cons.mpr <| .inr <| .inl ha', b',
        fun x hx => mem_entries_cons.mpr <| .inr <| .inl <| hb' x hx, h⟩
    · obtain ⟨a', ha', b', hb', h⟩ := ha h
      exact ⟨a', mem_entries_cons.mpr <| .inr <| .inr ha', b',
        fun x hx => mem_entries_cons.mpr <| .inr <| .inr <| hb' x hx, h⟩
  case case3 a below after hb ha =>
    obtain rfl | h | h := mem_entries_cons.mp h
    · exact ⟨a, mem_entries_cons.mpr <| .inl rfl, none, by simp, rfl⟩
    · obtain ⟨a', ha', h⟩ := hb h
      exact ⟨a', mem_entries_cons.mpr <| .inr <| .inl ha', h⟩
    · obtain ⟨a', ha', h⟩ := ha h
      exact ⟨a', mem_entries_cons.mpr <| .inr <| .inr ha', h⟩

-- Pairs are made alike of entries that are alike.
theorem pairWith_map {α' β' γ' : Type} {f : α → Option β → γ} {f' : α' → Option β' → γ'}
    {g : α → α'} {h : β → β'} {k : γ → γ'} (hk : ∀ a b, f' (g a) (b.map h) = k (f a b)) :
    pairWith f' (o₁.map g) (o₂.map h) = (pairWith f o₁ o₂).map k := by
  fun_induction pairWith f o₁ o₂
  case case1 => cases o₂ <;> rfl
  case case2 a below after b below' after' hb ha =>
    simp only [map_cons, pairWith, ← hk, Option.map_some, hb, ha]
  case case3 a below after hb ha =>
    rw [map_nil] at hb ha
    simp only [map_cons, map_nil, pairWith, ← hk, Option.map_none, hb, ha]

theorem map_pairWith {δ : Type} (f : α → Option β → γ) (g : γ → δ) (h : α → δ)
    (hfg : ∀ a b, g (f a b) = h a) : (pairWith f o₁ o₂).map g = o₁.map h := by
  fun_induction pairWith f o₁ o₂
  case case1 => rfl
  case case2 a below after b below' after' hb ha => simp only [map_cons, hfg, hb, ha]
  case case3 a below after hb ha => simp only [map_cons, hfg, hb, ha]

end MenuOutline.Outline
