import MenuOutline.Datum.Merge
import MenuOutline.Proofs.Keyed

namespace MenuOutline.Datum

variable {base : Keyed Datum} {ms : List (String × Datum)} {names : List String} {key : String}

-- A key of the overlay covers that of the base.
theorem lookup_mergeMembers : (mergeMembers base ms).lookup key =
    (ms.lookup key).elim (base.lookup key) fun d =>
      some ((base.lookup key).elim d (merge · d)) := by
  induction ms
  case nil => rfl
  case cons m ms hi =>
    obtain ⟨k, d⟩ := m
    rw [mergeMembers, List.lookup_cons]
    by_cases hk : key = k
    case pos =>
      rw [hk, Keyed.lookup_insert, beq_self_eq_true]
      cases base.lookup k <;> rfl
    case neg => rw [Keyed.lookup_insert_of_ne hk, hi, beq_false_of_ne hk]

theorem merge_of_ne_table {covered : Datum} (h : ∀ ms, covered ≠ .table ms) (d : Datum) :
    merge covered d = d := by
  cases d
  case table =>
    cases covered
    case table ms => exact absurd rfl (h ms)
    all_goals rfl
  all_goals rfl

theorem lookup_mergeMembers_of_ne_table (h : ∀ bs, base.lookup key ≠ some (.table bs)) :
    (mergeMembers base ms).lookup key = (ms.lookup key).or (base.lookup key) := by
  rw [lookup_mergeMembers]
  cases ms.lookup key
  case none => rfl
  case some d =>
    cases hb : base.lookup key
    case none => rfl
    case some covered =>
      exact congrArg some <| merge_of_ne_table (fun bs he => h bs (he ▸ hb)) d

-- The members of the table at a key, if there is one.
def membersAt (key : String) (ms : List (String × Datum)) : List (String × Datum) :=
  match ms.lookup key with
  | some (.table os) => os
  | _ => []

theorem get?_singleton : (Datum.table ms).get? [key] = ms.lookup key := by
  rw [get?]
  cases ms.lookup key <;> rfl

theorem get?_pair {name : String} :
    (Datum.table ms).get? [name, key] = (membersAt name ms).lookup key := by
  rw [get?, membersAt]
  cases ms.lookup name
  case none => rfl
  case some d =>
    cases d
    case table os => simp [get?]
    all_goals rfl

theorem lookup_membersAt_eq_some_iff {name : String} {d : Datum} :
    (membersAt name ms).lookup key = some d ↔
      ∃ os, ms.lookup name = some (.table os) ∧ os.lookup key = some d := by
  rw [membersAt]
  split
  case h_1 os h => simp [h]
  case h_2 h    => simpa using fun os ho => absurd ho (h os)

theorem lookup_mergeMembers_of_table {bs : Keyed Datum} (hb : base.lookup key = some (.table bs))
    (h : ∀ d, ms.lookup key = some d → ∃ os, d = .table os) :
    (mergeMembers base ms).lookup key = some (.table (mergeMembers bs (membersAt key ms))) := by
  rw [lookup_mergeMembers, membersAt, hb]
  cases hm : ms.lookup key
  case none => simp [mergeMembers]
  case some d =>
    obtain ⟨os, rfl⟩ := h d hm
    simp [merge]

theorem mem_keys_mergeMembers_iff : key ∈ (mergeMembers base ms).map (·.1) ↔
    key ∈ ms.map (·.1) ∨ key ∈ base.map (·.1) := by
  rw [Keyed.mem_keys_iff, Keyed.mem_keys_iff, Keyed.mem_keys_iff, lookup_mergeMembers]
  cases ms.lookup key <;> simp

theorem forall_mem_keys_mergeMembers_iff (h : ∀ k ∈ base.map (·.1), k ∈ names) :
    (∀ k ∈ (mergeMembers base ms).map (·.1), k ∈ names) ↔ ∀ k ∈ ms.map (·.1), k ∈ names := by
  simp only [mem_keys_mergeMembers_iff]
  exact ⟨fun hk k hm => hk k (.inl hm), fun hk k => (·.elim (hk k) (h k))⟩

theorem sorted_mergeMembers (h : base.Sorted) : Keyed.Sorted (mergeMembers base ms) := by
  induction ms
  case nil => exact h
  case cons m ms hi =>
    rw [mergeMembers]
    exact hi.insert _ _

theorem mergeMembers_nil (h : Keyed.Sorted ms) : mergeMembers [] ms = ms := by
  refine (sorted_mergeMembers .nil).eq_of_lookup h fun k => ?_
  rw [lookup_mergeMembers]
  cases ms.lookup k <;> rfl

end MenuOutline.Datum
