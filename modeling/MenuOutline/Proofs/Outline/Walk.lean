import MenuOutline.Proofs.Outline.Level
import MenuOutline.Site

-- Walks of an outline, step by step. Main statement: a walk ends, and it comes by every page once,
-- each one before those below it, so that the pages of a menu are counted right.

namespace MenuOutline

namespace Outline

variable {α : Type} {w : Walk α} {as : List α}

-- What a walk gives when it is asked for one entry after the other, until it has none left.
inductive Walk.Yields : Walk α → List α → Prop
  | done {w : Walk α} : (w.next? = none) → Yields w []
  | step {w w' : Walk α} {a as} : (w.next? = some (a, w')) → Yields w' as → Yields w (a :: as)

namespace Walk

theorem yields_toList (w : Walk α) : w.Yields w.toList := by
  fun_induction toList w
  case case1 h    => exact .done h
  case case2 h hi => exact .step h hi

theorem Yields.eq_pending (h : w.Yields as) : as = w.pending := by
  induction h
  case done h      => exact (pending_eq_nil h).symm
  case step h _ hi => rw [pending_eq_cons h, hi]

-- A walk comes to its end from wherever it is, in one way only.
theorem yields_iff : w.Yields as ↔ as = w.pending := by
  refine ⟨Yields.eq_pending, ?_⟩
  rintro rfl
  exact w.toList_eq_pending ▸ w.yields_toList

end Walk

-- A list holds each entry once: it goes along the paths of all of them, and along none twice.
def HoldsEach (o : Outline α) (as : List α) : Prop :=
  ∃ paths : List (List Nat), paths.Nodup ∧ (∀ path, path ∈ paths ↔ (o.get? path).isSome) ∧
    as.map some = paths.map o.get?

theorem holdsEach_entries (o : Outline α) : o.HoldsEach o.entries :=
  ⟨o.paths, o.pairwise_paths.imp ne_of_lt, fun _ => mem_paths_iff, o.map_get?_paths.symm⟩

end Outline

namespace Menu

theorem checkSize_eq (m : Menu) (least : Nat) : m.checkSize least =
    if m.combined.size < least then .error (.tooFewPages least m.combined.size) else .ok () := by
  rw [checkSize, pageCount_eq_size]

-- A walk from a page on has an end and gives that page and all below it. So the pages of a tree are
-- listed in its order, each of them once, and their count is that of the tree.
theorem pages_walked_in_order :
    (∀ (p : Page) (below : Outline Page) (ps : List Page),
      (Outline.Walk.start (p, below)).Yields ps ↔ ps = p :: below.entries) ∧
    (∀ pages : Outline Page, pages.walk = pages.entries ∧ pages.HoldsEach pages.walk ∧
      pages.walk.length = pages.size) ∧
    ∀ m : Menu, m.pageCount = m.combined.size ∧ ∀ least, m.checkSize least =
      if m.combined.size < least then .error (.tooFewPages least m.combined.size) else .ok () := by
  refine ⟨fun p below ps => ?_, fun pages => ?_, fun m => ⟨m.pageCount_eq_size, m.checkSize_eq⟩⟩
  · rw [Outline.Walk.yields_iff, Outline.Walk.pending_start]
    rfl
  · refine ⟨pages.walk_eq_entries, ?_, pages.length_walk⟩
    rw [pages.walk_eq_entries]
    exact pages.holdsEach_entries

end Menu

end MenuOutline
