import MenuOutline.Proofs.Outline.Depth

namespace MenuOutline.Outline

variable {α β γ : Type}

-- The entries in order, each with what is below it.
def nodes : Outline α → List (α × Outline α)
  | nil => []
  | cons a below after => (a, below) :: (below.nodes ++ after.nodes)

theorem entries_eq_nodes (o : Outline α) : o.entries = o.nodes.map Prod.fst := by
  induction o
  case nil => rfl
  case cons a below after hb ha =>
    simp only [entries, nodes, hb, ha, List.map_cons, List.map_append]

theorem nodes_mapWithBelow (f : α → Outline α → β) (o : Outline α) :
    (o.mapWithBelow f).nodes = o.nodes.map fun (a, below) => (f a below, below.mapWithBelow f) := by
  induction o
  case nil => rfl
  case cons a below after hb ha =>
    simp only [mapWithBelow, nodes, hb, ha, List.map_cons, List.map_append]

-- What is made of an entry without regard to what is below it keeps its place.
theorem map_mapWithBelow {f : α → Outline α → β} {g : β → γ} {h : α → γ}
    (hg : ∀ a below, g (f a below) = h a) (o : Outline α) : (o.mapWithBelow f).map g = o.map h := by
  induction o
  case nil => rfl
  case cons a below after hb ha => simp only [mapWithBelow, map_cons, hg, hb, ha]

theorem size_eq_of_map_eq {f : α → γ} {g : β → γ} {o₁ : Outline α} {o₂ : Outline β}
    (h : o₁.map f = o₂.map g) : o₁.size = o₂.size := by
  have h := congrArg (·.entries.length) h
  simpa [entries_map, length_entries] using h

end MenuOutline.Outline
