import MenuOutline.Outline

-- Walks: the way through all entries of an outline, each one before those below it. A stack holds
-- what is still to be entered.

namespace MenuOutline.Outline

variable {α : Type} {a : α}

-- The entries at the top, each with what is below it.
def branches : Outline α → List (α × Outline α)
  | nil => []
  | cons a below after => (a, below) :: after.branches

-- The entry of a branch, then all entries below it.
def branchEntries (branch : α × Outline α) : List α :=
  branch.1 :: branch.2.entries

theorem flatMap_branches (o : Outline α) : o.branches.flatMap branchEntries = o.entries := by
  induction o
  case nil => rfl
  case cons a below after _ ha => rw [branches, List.flatMap_cons, ha, branchEntries, entries,
    List.cons_append]

-- A walk that is under way. The branch to be entered next is the last one.
structure Walk (α : Type) where
  stack : Array (α × Outline α)
deriving DecidableEq, Repr

namespace Walk

variable {w w' : Walk α}

def start (branch : α × Outline α) : Walk α where
  stack := #[branch]

-- Enters a branch. Those below its entry go onto the stack from the last to the first, so that the
-- first one is entered next.
def next? (w : Walk α) : Option (α × Walk α) :=
  match w.stack.back? with
  | none => none
  | some (a, below) => some (a, { stack := w.stack.pop ++ below.branches.reverse })

-- The entries that are still to come.
def pending (w : Walk α) : List α :=
  w.stack.toList.reverse.flatMap branchEntries

theorem pending_start (branch : α × Outline α) : (start branch).pending = branchEntries branch := by
  simp [pending, start]

theorem pending_eq_nil (h : w.next? = none) : w.pending = [] := by
  unfold next? at h
  split at h
  case h_1 hb => simp [pending, Array.back?_eq_none_iff.mp hb]
  case h_2 => contradiction

-- What is below an entry comes before all that was on the stack with it.
theorem pending_eq_cons (h : w.next? = some (a, w')) : w.pending = a :: w'.pending := by
  unfold next? at h
  split at h
  case h_1 => contradiction
  case h_2 b below hb =>
    cases h
    have ⟨rest, hr⟩ := Array.back?_eq_some_iff.mp hb
    simp only [pending, hr, Array.pop_push, Array.toList_push, Array.toList_appendList,
      List.reverse_append, List.reverse_reverse, List.reverse_singleton, List.flatMap_append,
      List.flatMap_singleton, flatMap_branches]
    rfl

-- All entries that a walk comes by.
def toList (w : Walk α) : List α :=
  match _h : w.next? with
  | none => []
  | some (a, w') => a :: w'.toList
termination_by w.pending.length
decreasing_by
  rw [pending_eq_cons _h, List.length_cons]
  exact Nat.lt_succ_self _

theorem toList_eq_pending (w : Walk α) : w.toList = w.pending := by
  fun_induction toList w
  case case1 h => rw [pending_eq_nil h]
  case case2 h hi => rw [hi, pending_eq_cons h]

end Walk

-- The entries of an outline as the walks through its branches come by them.
def walk (o : Outline α) : List α :=
  o.branches.flatMap fun branch => (Walk.start branch).toList

theorem walk_eq_entries (o : Outline α) : o.walk = o.entries := by
  simp only [walk, Walk.toList_eq_pending, Walk.pending_start, flatMap_branches]

theorem length_walk (o : Outline α) : o.walk.length = o.size := by
  rw [walk_eq_entries, length_entries]

end MenuOutline.Outline
