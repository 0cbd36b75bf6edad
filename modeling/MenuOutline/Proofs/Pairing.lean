import MenuOutline.Pairing
import MenuOutline.Proofs.Outline.Place

namespace MenuOutline

variable {primary : Outline Page} {secondary : Option (Outline Page)}

theorem map_withCounterparts {α : Type} (f : Page → α)
    (h : ∀ p c, f { p with counterpart := c } = f p) :
    (withCounterparts primary secondary).map f = primary.map f :=
  Outline.map_pairWith _ f f fun p _ => h p _

-- A page without what the second section says of it.
def Page.alone (p : Page) : Page :=
  { p with counterpart := .none }

theorem Page.alone_ofLine (l : Line) : (ofLine l).alone = ofLine l := by
  simp only [alone, ofLine]

theorem map_alone_withCounterparts :
    (withCounterparts primary secondary).map Page.alone = primary.map Page.alone :=
  map_withCounterparts _ fun _ _ => rfl

theorem mem_entries_of_withCounterparts {p : Page}
    (h : p ∈ (withCounterparts primary secondary).entries) :
    ∃ p' ∈ primary.entries, ∃ q : Option Page, (∀ q' ∈ q, ∃ o ∈ secondary, q' ∈ o.entries) ∧
      p = { p' with counterpart := q.elim .none Counterpart.ofPage } := by
  have ⟨p', hp, q, hq, h⟩ := Outline.mem_entries_of_pairWith h
  refine ⟨p', hp, q, fun q' hq' => ?_, h⟩
  cases secondary
  case none => exact absurd (hq q' hq') List.not_mem_nil
  case some o => exact ⟨o, rfl, hq q' hq'⟩

-- The pairs are made place by place, at every level, and the first outline alone gives the shape.
theorem get?_withCounterparts (primary : Outline Page) (secondary : Option (Outline Page)) :
    (∀ path, (withCounterparts primary secondary).get? path = (primary.get? path).map fun p =>
      { p with counterpart := (secondary.bind (·.get? path)).elim .none Counterpart.ofPage }) ∧
    (withCounterparts primary secondary).shape = primary.shape := by
  constructor
  case left =>
    intro path
    have h : (secondary.getD .nil).get? path = secondary.bind (·.get? path) := by
      cases secondary <;> simp
    rw [withCounterparts, Outline.get?_pairWith, h]
  case right => exact map_withCounterparts (fun _ => ()) fun _ _ => rfl

end MenuOutline
