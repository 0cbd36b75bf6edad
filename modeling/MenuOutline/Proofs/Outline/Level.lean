import MenuOutline.Proofs.Outline.Place

namespace MenuOutline.Outline

variable {α : Type} {o : Outline α} {path : List Nat}

-- The entries that stand together below the entry that a path leads to. The empty path leads to
-- those at the top.
def level? (o : Outline α) : List Nat → Option (Outline α)
  | [] => some o
  | i :: path => (o.nth? i).bind (·.2.level? path)

-- The path to the entry one place further on, and those to the entries below it.
def onward : List Nat → List Nat
  | [] => []
  | i :: path => (i + 1) :: path

-- The paths to the entries, in their order.
def paths : Outline α → List (List Nat)
  | nil => []
  | cons _ below after => [0] :: (below.paths.map (0 :: ·) ++ after.paths.map onward)

section

variable {a : α} {below after : Outline α}

theorem get?_cons_zero (h : path ≠ []) :
    (cons a below after).get? (0 :: path) = below.get? path := by
  cases path
  case nil      => contradiction
  case cons i p => rfl

theorem get?_cons_onward : (cons a below after).get? (onward path) = after.get? path := by
  match path with
  | [] | [_] | _ :: _ :: _ => rfl

theorem level?_cons_onward (h : path ≠ []) :
    (cons a below after).level? (onward path) = after.level? path := by
  cases path
  case nil      => contradiction
  case cons i p => rfl

theorem mem_paths_cons_iff : path ∈ (cons a below after).paths ↔
    path = [0] ∨ (∃ p ∈ below.paths, 0 :: p = path) ∨ ∃ p ∈ after.paths, onward p = path := by
  simp [paths]

end

theorem ne_nil_of_get? (h : (o.get? path).isSome) : path ≠ [] := by
  rintro rfl
  contradiction

theorem mem_paths_iff : path ∈ o.paths ↔ (o.get? path).isSome := by
  induction o generalizing path
  case nil => simp [paths]
  case cons a below after hb ha =>
    rw [mem_paths_cons_iff]
    constructor
    case mp =>
      rintro (rfl | ⟨p, hp, rfl⟩ | ⟨p, hp, rfl⟩)
      · rfl
      · have hp := hb.mp hp
        rwa [get?_cons_zero (ne_nil_of_get? hp)]
      · rw [get?_cons_onward]
        exact ha.mp hp
    case mpr =>
      intro h
      match path with
      | []          => contradiction
      | [0]         => exact .inl rfl
      | 0 :: i :: p => exact .inr <| .inl ⟨i :: p, hb.mpr h, rfl⟩
      | (i + 1) :: p =>
        have hp : (cons a below after).get? (onward (i :: p)) = after.get? (i :: p) :=
          get?_cons_onward
        exact .inr <| .inr ⟨i :: p, ha.mpr <| hp ▸ h, rfl⟩

theorem ne_nil_of_mem_paths (h : path ∈ o.paths) : path ≠ [] :=
  ne_nil_of_get? <| mem_paths_iff.mp h

theorem onward_lt_onward {p q : List Nat} (h : p < q) : onward p < onward q := by
  cases h
  case nil => exact .nil
  case rel h => exact .rel <| Nat.succ_lt_succ h
  case cons h => exact .cons h

theorem zero_cons_lt_onward {p q : List Nat} (h : q ≠ []) : 0 :: p < onward q := by
  cases q
  case nil      => contradiction
  case cons i q => exact .rel <| Nat.succ_pos i

-- Paths go up in the order of dictionaries: an entry comes before those below it, and these come
-- before the next entry.
theorem pairwise_paths (o : Outline α) : o.paths.Pairwise (· < ·) := by
  induction o
  case nil => exact .nil
  case cons a below after hb ha =>
    have hb : (below.paths.map (0 :: ·)).Pairwise (· < ·) := hb.map _ fun _ _ h => .cons h
    have ha : (after.paths.map onward).Pairwise (· < ·) := ha.map _ fun _ _ => onward_lt_onward
    refine List.pairwise_cons.mpr ⟨?first, List.pairwise_append.mpr ⟨hb, ha, ?across⟩⟩
    case first =>
      refine List.forall_mem_append.mpr ⟨?_, ?_⟩ <;> rw [List.forall_mem_map] <;> intro p hp
      · obtain ⟨i, q, rfl⟩ := List.exists_cons_of_ne_nil <| ne_nil_of_mem_paths hp
        exact .cons .nil
      · exact zero_cons_lt_onward <| ne_nil_of_mem_paths hp
    case across =>
      rw [List.forall_mem_map]
      intro p _
      rw [List.forall_mem_map]
      exact fun q hq => zero_cons_lt_onward <| ne_nil_of_mem_paths hq

-- The entries that the paths lead to, one after the other, are all entries in their order.
theorem map_get?_paths (o : Outline α) : o.paths.map o.get? = o.entries.map some := by
  induction o
  case nil => rfl
  case cons a below after hb ha =>
    have hb' : (below.paths.map (0 :: ·)).map (cons a below after).get? = below.entries.map some := by
      rw [← hb, List.map_map]
      exact List.map_congr_left fun p hp => get?_cons_zero <| ne_nil_of_mem_paths hp
    have ha' : (after.paths.map onward).map (cons a below after).get? = after.entries.map some := by
      rw [← ha, List.map_map]
      exact List.map_congr_left fun p _ => get?_cons_onward
    rw [paths, List.map_cons, List.map_append, hb', ha', entries, List.map_cons, List.map_append]
    rfl

-- The paths to the levels: to the top, and to what is below the entries.
def levels (o : Outline α) : List (List Nat) :=
  [] :: o.paths

theorem mem_levels_iff : path ∈ o.levels ↔ (o.level? path).isSome := by
  rw [levels, List.mem_cons, mem_paths_iff]
  induction path generalizing o
  case nil => simp [level?]
  case cons i p hi =>
    rw [or_iff_right (List.cons_ne_nil i p), level?]
    cases p
    case nil =>
      rw [get?]
      cases o.nth? i <;> rfl
    case cons j p =>
      rw [get?]
      cases o.nth? i
      case none   => rfl
      case some x => exact (or_iff_right <| List.cons_ne_nil j p).symm.trans hi

theorem pairwise_levels (o : Outline α) : o.levels.Pairwise (· < ·) := by
  refine List.pairwise_cons.mpr ⟨fun path h => ?_, o.pairwise_paths⟩
  obtain ⟨i, p, rfl⟩ := List.exists_cons_of_ne_nil <| ne_nil_of_mem_paths h
  exact .nil

end MenuOutline.Outline
