import MenuOutline.Proofs.Pairing

namespace MenuOutline

namespace Outline

variable {α β γ δ : Type} {o₁ : Outline α} {o₂ : Outline β}

@[simp] theorem shape_nil : (nil : Outline α).shape = nil :=
  rfl

@[simp] theorem shape_cons (a : α) (below after : Outline α) :
    (cons a below after).shape = cons () below.shape after.shape :=
  rfl

theorem length_eq_of_shape_eq (h : o₁.shape = o₂.shape) : o₁.length = o₂.length := by
  induction o₁ generalizing o₂ <;> cases o₂ <;> simp at h
  case nil.nil => rfl
  case cons.cons a below after hb ha b below' after' =>
    exact congrArg (· + 1) (ha h.right)

end Outline

namespace PairingMismatch

variable {parent : Option String} {a b : Outline Page}

theorem ofLevel_eq_nil_iff : ofLevel parent a b = [] ↔ a.length = b.length := by
  simp [ofLevel]

theorem below_eq_nil_iff (h : a.length = b.length) : below a b = [] ↔ a.shape = b.shape := by
  induction a generalizing b <;> cases b
  case nil.nil   => simp [below]
  case nil.cons  => contradiction
  case cons.nil  => contradiction
  case cons.cons p sub after hs ha q sub' after' =>
    have hl : after.length = after'.length := Nat.succ.inj h
    simp only [below, List.append_eq_nil_iff, ofLevel_eq_nil_iff, ha hl, Outline.shape_cons,
      Outline.cons.injEq, true_and]
    refine and_congr_left fun _ => ?_
    constructor
    case mp  => exact fun ⟨hl, hb⟩ => (hs hl).mp hb
    case mpr =>
      intro h
      have hl := Outline.length_eq_of_shape_eq h
      exact ⟨hl, (hs hl).mpr h⟩

theorem ofLevel_map (f : Page → Page) :
    ofLevel parent (a.map f) (b.map f) = ofLevel parent a b := by
  simp only [ofLevel, Outline.length_map]

theorem below_map {f : Page → Page} (h : ∀ p, (f p).name = p.name) :
    below (a.map f) (b.map f) = below a b := by
  induction a generalizing b <;> cases b
  case cons.cons p sub after hs ha q sub' after' =>
    simp only [Outline.map_cons, below, h, ofLevel_map, hs, ha]
  all_goals rfl

end PairingMismatch

variable {primary : Outline Page} {secondary : Option (Outline Page)}

-- Every difference in shape is reported, and nothing else is.
theorem pairingMismatches_eq_nil_iff :
    pairingMismatches primary secondary = [] ↔ ∀ t ∈ secondary, primary.shape = t.shape := by
  cases secondary
  case none   => exact iff_of_true rfl nofun
  case some t =>
    rw [pairingMismatches, List.append_eq_nil_iff, PairingMismatch.ofLevel_eq_nil_iff]
    constructor
    case mp =>
      intro ⟨hl, hb⟩ t' ht
      exact Option.some.inj ht ▸ (PairingMismatch.below_eq_nil_iff hl).mp hb
    case mpr =>
      intro h
      have hl := Outline.length_eq_of_shape_eq (h t rfl)
      exact ⟨hl, (PairingMismatch.below_eq_nil_iff hl).mpr (h t rfl)⟩

-- Only the names of pages are told of a mismatch.
theorem pairingMismatches_map {f : Page → Page} (h : ∀ p, (f p).name = p.name) :
    pairingMismatches (primary.map f) (secondary.map (·.map f)) =
      pairingMismatches primary secondary := by
  cases secondary
  case none   => rfl
  case some t =>
    simp only [pairingMismatches, Option.map_some, PairingMismatch.ofLevel_map,
      PairingMismatch.below_map h]

end MenuOutline
