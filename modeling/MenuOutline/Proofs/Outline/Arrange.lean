import MenuOutline.Proofs.Outline.Depth

namespace MenuOutline.Outline

variable {α β : Type} {o o₁ : Outline α} {a : α} {n : Nat}

-- There is a place for an entry or there is none, whatever the entries are.
theorem append?_map (f : α → β) : (o.map f).append? (f a) n = (o.append? a n).map (map f) := by
  fun_induction append? a n o
  case case1 => rfl
  case case2 => rfl
  case case3 b below after hi =>
    simp only [map_cons, append?, hi, Option.map_map]
    rfl
  case case4 level b below hi =>
    simp only [map_cons, map_nil, append?, hi, Option.map_map]
    rfl
  case case5 level b below after hn hi =>
    cases after
    case nil => exact absurd rfl hn
    case cons c below' after' =>
      rw [map_cons] at hi
      simp only [map_cons, append?, hi, Option.map_map]
      rfl

-- An outline with the entries that found no place in it.
structure Arranged (α : Type) where
  outline : Outline α
  strays  : List α

namespace Arranged

variable {r : Arranged α} {level : α → Nat} {as : List α}

def empty : Arranged α where
  outline := nil
  strays  := []

def map (f : α → β) (r : Arranged α) : Arranged β where
  outline := r.outline.map f
  strays  := r.strays.map f

def add (level : α → Nat) (r : Arranged α) (a : α) : Arranged α :=
  match r.outline.append? a (level a) with
  | some outline => { r with outline }
  | none         => { r with strays := r.strays ++ [a] }

theorem add_map {level : β → Nat} (f : α → β) :
    (r.map f).add level (f a) = (r.add (level ∘ f) a).map f := by
  simp only [add, map, append?_map, Function.comp]
  cases r.outline.append? a (level (f a)) <;> simp

end Arranged

-- Every entry in turn goes below the last one a level up.
def arrange (level : α → Nat) (as : List α) : Arranged α :=
  as.foldl (Arranged.add level) .empty

variable {level : α → Nat} {as : List α}

-- The levels alone decide where the entries go.
theorem arrange_map {level : β → Nat} (f : α → β) (as : List α) :
    arrange level (as.map f) = (arrange (level ∘ f) as).map f := by
  suffices h : ∀ r : Arranged α, (as.map f).foldl (Arranged.add level) (r.map f) =
      (as.foldl (Arranged.add (level ∘ f)) r).map f from h .empty
  induction as
  case nil => exact fun _ => rfl
  case cons a as hi =>
    intro r
    rw [List.map_cons, List.foldl_cons, Arranged.add_map, hi, List.foldl_cons]

end MenuOutline.Outline
