import MenuOutline.Proofs.Outline.Level
import MenuOutline.Proofs.Pairing.Shape
import Mathlib.Data.List.Forall2

namespace MenuOutline

open Outline

namespace PairingMismatch

variable {a b : Outline Page} {path : List Nat} {m : PairingMismatch}

-- A mismatch tells of the level that a path leads to in both sections.
structure Reports (a b : Outline Page) (path : List Nat) (m : PairingMismatch) : Prop where
  parent    : m.parent = (a.get? path).map (·.name)
  primary   : (a.level? path).map (·.length) = some m.primary
  secondary : (b.level? path).map (·.length) = some m.secondary
  ne        : m.primary ≠ m.secondary

-- The mismatch at the end of a path, if there is one.
def at? (a b : Outline Page) (path : List Nat) : Option PairingMismatch := do
  let here ← a.level? path
  let there ← b.level? path
  if here.length = there.length then none
  else some { parent := (a.get? path).map (·.name), primary := here.length, secondary := there.length }

theorem at?_eq_some_iff : at? a b path = some m ↔ Reports a b path m := by
  constructor
  case mp =>
    intro h
    have ⟨here, ha, h⟩ := Option.bind_eq_some_iff.mp h
    have ⟨there, hb, h⟩ := Option.bind_eq_some_iff.mp h
    split at h
    · contradiction
    · cases h
      exact ⟨rfl, by rw [ha]; rfl, by rw [hb]; rfl, ‹_›⟩
  case mpr =>
    intro ⟨hp, ha, hb, hn⟩
    have ⟨here, ha, hl⟩   := Option.map_eq_some_iff.mp ha
    have ⟨there, hb, hl'⟩ := Option.map_eq_some_iff.mp hb
    rw [at?, ha, hb, ← hp]
    simp [hl, hl', hn]

theorem filterMap_at?_cons {here there : Outline Page} {paths : List (List Nat)}
    (ha : a.level? path = some here) (hb : b.level? path = some there) :
    (path :: paths).filterMap (at? a b) =
      ofLevel ((a.get? path).map (·.name)) here there ++ paths.filterMap (at? a b) := by
  rw [List.filterMap_cons, at?, ha, hb, ofLevel]
  simp only [Option.bind_eq_bind, Option.bind_some]
  split_ifs <;> rfl

theorem at?_cons_zero {p q : Page} {sub after sub' after' : Outline Page} (h : path ≠ []) :
    at? (cons p sub after) (cons q sub' after') (0 :: path) = at? sub sub' path := by
  rw [at?, get?_cons_zero h]
  rfl

theorem at?_cons_onward {p q : Page} {sub after sub' after' : Outline Page} (h : path ≠ []) :
    at? (cons p sub after) (cons q sub' after') (onward path) = at? after after' path := by
  rw [at?, get?_cons_onward, level?_cons_onward h, level?_cons_onward h]
  rfl

theorem below_eq_filterMap : below a b = a.paths.filterMap (at? a b) := by
  induction a generalizing b <;> cases b
  case nil.nil  => rfl
  case nil.cons => rfl
  case cons.nil =>
    refine (List.filterMap_eq_nil_iff.mpr fun path h => ?_).symm
    obtain ⟨i, p, rfl⟩ := List.exists_cons_of_ne_nil <| ne_nil_of_mem_paths h
    refine Option.bind_eq_none_iff.mpr fun here _ => ?_
    rfl
  case cons.cons p sub after hs ha q sub' after' =>
    have hs : (sub.paths.map (0 :: ·)).filterMap (at? (cons p sub after) (cons q sub' after')) =
        below sub sub' := by
      rw [hs, List.filterMap_map]
      exact List.filterMap_congr fun path h => at?_cons_zero <| ne_nil_of_mem_paths h
    have ha : (after.paths.map onward).filterMap (at? (cons p sub after) (cons q sub' after')) =
        below after after' := by
      rw [ha, List.filterMap_map]
      exact List.filterMap_congr fun path h => at?_cons_onward <| ne_nil_of_mem_paths h
    rw [below, paths, filterMap_at?_cons rfl rfl, List.filterMap_append, hs, ha, List.append_assoc]
    rfl

theorem Reports.mem_levels (r : Reports a b path m) : path ∈ a.levels := by
  have ⟨here, h, _⟩ := Option.map_eq_some_iff.mp r.primary
  exact mem_levels_iff.mpr <| Option.isSome_iff_exists.mpr ⟨here, h⟩

end PairingMismatch

theorem pairingMismatches_eq_filterMap (a b : Outline Page) :
    pairingMismatches a (some b) = a.levels.filterMap (PairingMismatch.at? a b) := by
  rw [levels, PairingMismatch.filterMap_at?_cons rfl rfl, ← PairingMismatch.below_eq_filterMap]
  rfl

theorem forall₂_filterMap {α β : Type} (f : α → Option β) (as : List α) :
    List.Forall₂ (fun a b => f a = some b) (as.filter fun a => (f a).isSome) (as.filterMap f) := by
  induction as
  case nil => exact .nil
  case cons a as hi =>
    cases ha : f a
    case none   => simpa [ha] using hi
    case some b => simpa [ha] using hi

-- Every level that both sections have is reported once if its counts of pages differ, in the order
-- of the first section, with the name of the page above it, and nothing else is reported.
theorem pairingMismatches_report_levels (primary secondary : Outline Page) :
    (∃ paths : List (List Nat), paths.Pairwise (· < ·) ∧
      (∀ path, path ∈ paths ↔ ∃ m, PairingMismatch.Reports primary secondary path m) ∧
      List.Forall₂ (PairingMismatch.Reports primary secondary) paths
        (pairingMismatches primary (some secondary))) ∧
    (pairingMismatches primary (some secondary) = [] ↔ primary.shape = secondary.shape) ∧
    pairingMismatches primary none = [] := by
  refine ⟨⟨primary.levels.filter fun path => (PairingMismatch.at? primary secondary path).isSome,
    ?order, fun path => ?levels, ?reports⟩, ?shape, rfl⟩
  case order => exact primary.pairwise_levels.filter _
  case levels =>
    rw [List.mem_filter, Option.isSome_iff_exists]
    simp only [PairingMismatch.at?_eq_some_iff]
    exact and_iff_right_of_imp fun ⟨m, r⟩ => r.mem_levels
  case reports =>
    rw [pairingMismatches_eq_filterMap]
    exact (forall₂_filterMap (PairingMismatch.at? primary secondary) _).imp fun _ _ =>
      PairingMismatch.at?_eq_some_iff.mp
  case shape => simp [pairingMismatches_eq_nil_iff]

end MenuOutline
