import MenuOutline.Proofs.Datum.Merge

-- What stands at the paths of data laid over each other. Main statement: at every path an overlay
-- decides what it has something to say about and leaves the rest to the base, and no other datum
-- does so.

namespace MenuOutline.Datum

variable {base overlay d e : Datum} {ms os : List (String × Datum)} {key : String}
  {path front rest : List String}

theorem eq_table_or_ne (d : Datum) : (∃ ms, d = .table ms) ∨ ∀ ms, d ≠ .table ms := by
  cases d
  case table ms => exact .inl ⟨ms, rfl⟩
  all_goals exact .inr nofun

theorem get?_of_ne_table (h : ∀ ms, d ≠ .table ms) : d.get? (key :: path) = none := by
  cases d
  case table ms => exact absurd rfl (h ms)
  all_goals rfl

theorem get?_cons_table : (Datum.table ms).get? (key :: path) = (ms.lookup key).bind (get? path) :=
  rfl

theorem get?_append : d.get? (front ++ rest) = (d.get? front).bind (get? rest) := by
  induction front generalizing d
  case nil => rfl
  case cons key front hi =>
    cases d
    case table ms =>
      rw [List.cons_append, get?_cons_table, get?_cons_table, Option.bind_assoc]
      exact Option.bind_congr fun _ _ => hi
    all_goals rfl

-- Something that is no table stands on the way, before the end of the path.
def IsBlocked (d : Datum) (path : List String) : Prop :=
  ∃ front key rest, path = front ++ key :: rest ∧
    ∃ e, d.get? front = some e ∧ ∀ ms, e ≠ .table ms

theorem isBlocked_of_ne_table (h : ∀ ms, d ≠ .table ms) : d.IsBlocked (key :: path) :=
  ⟨[], key, path, rfl, d, rfl, h⟩

theorem IsBlocked.cons (h : d.IsBlocked path) (hm : ms.lookup key = some d) :
    (Datum.table ms).IsBlocked (key :: path) := by
  have ⟨front, k, rest, hp, e, he, hn⟩ := h
  refine ⟨key :: front, k, rest, congrArg (key :: ·) hp, e, ?_, hn⟩
  rw [get?_cons_table, hm, Option.bind_some, he]

theorem IsBlocked.get?_eq_none (h : d.IsBlocked path) : d.get? path = none := by
  have ⟨front, key, rest, hp, e, he, hn⟩ := h
  rw [hp, get?_append, he, Option.bind_some, get?_of_ne_table hn]

theorem merge_overlay_of_ne_table (h : ∀ ms, d ≠ .table ms) : merge base d = d := by
  cases d
  case table ms => exact absurd rfl (h ms)
  all_goals rfl

-- What both have at a path is merged there.
theorem get?_merge (h : ¬overlay.IsBlocked path) : (merge base overlay).get? path =
    (overlay.get? path).elim (base.get? path) fun d =>
      some ((base.get? path).elim d (merge · d)) := by
  induction path generalizing base overlay
  case nil => rfl
  case cons key path hi =>
    cases overlay.eq_table_or_ne
    case inr hn => exact absurd (isBlocked_of_ne_table hn) h
    case inl ht =>
      have ⟨os, ho⟩ := ht
      subst ho
      cases base.eq_table_or_ne
      case inr hn =>
        rw [merge_of_ne_table hn, get?_of_ne_table hn]
        cases (Datum.table os).get? (key :: path) <;> rfl
      case inl ht =>
        have ⟨bs, hb⟩ := ht
        subst hb
        rw [merge, get?_cons_table, get?_cons_table, get?_cons_table, lookup_mergeMembers]
        cases ho : os.lookup key
        case none => rfl
        case some o =>
          have h : ¬o.IsBlocked path := fun hb => h (hb.cons ho)
          cases bs.lookup key
          case none =>
            simp only [Option.elim_some, Option.elim_none, Option.bind_some, Option.bind_none]
            cases o.get? path <;> rfl
          case some b => exact hi h

-- Two data agree at a path if both have nothing there, or tables with the same keys, or else the
-- same.
inductive Agree : Option Datum → Option Datum → Prop
  | same (d : Option Datum) : Agree d d
  | tables {ms os : List (String × Datum)} :
    (∀ key, key ∈ ms.map (·.1) ↔ key ∈ os.map (·.1)) → Agree (some (.table ms)) (some (.table os))

-- What a datum that comes of an overlay over a base has at every path.
structure Overlaid (base overlay d : Datum) : Prop where
  value     : ∀ path e, overlay.get? path = some e → (∀ ms, e ≠ .table ms) → d.get? path = some e
  blocked   : ∀ path, overlay.IsBlocked path → d.get? path = none
  uncovered : ∀ path, overlay.get? path = none → ¬overlay.IsBlocked path →
    d.get? path = base.get? path
  table     : ∀ path os, overlay.get? path = some (.table os) →
    ∃ ms, d.get? path = some (.table ms) ∧ ∀ key, key ∈ ms.map (·.1) ↔
      key ∈ os.map (·.1) ∨ ∃ bs, base.get? path = some (.table bs) ∧ key ∈ bs.map (·.1)

namespace Overlaid

theorem agree (h : Overlaid base overlay d) (h' : Overlaid base overlay e) (path : List String) :
    Agree (d.get? path) (e.get? path) := by
  cases ho : overlay.get? path
  case none =>
    by_cases hb : overlay.IsBlocked path
    case pos => exact h.blocked path hb ▸ h'.blocked path hb ▸ .same _
    case neg => exact h.uncovered path ho hb ▸ h'.uncovered path ho hb ▸ .same _
  case some o =>
    cases o.eq_table_or_ne
    case inr hn => exact h.value path o ho hn ▸ h'.value path o ho hn ▸ .same _
    case inl ht =>
      have ⟨os, hs⟩ := ht
      subst hs
      have ⟨ms, hm, hk⟩ := h.table path os ho
      have ⟨ns, hn, hl⟩ := h'.table path os ho
      rw [hm, hn]
      exact .tables fun key => (hk key).trans (hl key).symm

-- The overlay changes nothing when it is laid over once more.
theorem again (h : Overlaid base overlay d) : Overlaid d overlay d where
  value     := h.value
  blocked   := h.blocked
  uncovered := fun _ _ _ => rfl
  table     := by
    intro path os ho
    have ⟨ms, hm, hk⟩ := h.table path os ho
    refine ⟨ms, hm, fun key => ⟨fun hm' => .inr ⟨ms, hm, hm'⟩, fun hm' => ?_⟩⟩
    cases hm'
    case inl hm' => exact (hk key).mpr (.inl hm')
    case inr hm' =>
      have ⟨ns, hn, hm'⟩ := hm'
      cases hm.symm.trans hn
      exact hm'

end Overlaid

theorem not_isBlocked (h : d.get? path = some e) : ¬d.IsBlocked path := by
  intro hb
  rw [hb.get?_eq_none] at h
  contradiction

theorem get?_merge_of_ne_table (h : overlay.get? path = some e) (hn : ∀ ms, e ≠ .table ms) :
    (merge base overlay).get? path = some e := by
  rw [get?_merge (not_isBlocked h), h]
  cases base.get? path
  case none   => rfl
  case some b => exact congrArg some (merge_overlay_of_ne_table hn)

theorem get?_merge_of_table (h : overlay.get? path = some (.table os)) :
    ∃ ms, (merge base overlay).get? path = some (.table ms) ∧ ∀ key, key ∈ ms.map (·.1) ↔
      key ∈ os.map (·.1) ∨ ∃ bs, base.get? path = some (.table bs) ∧ key ∈ bs.map (·.1) := by
  rw [get?_merge (not_isBlocked h), h]
  cases base.get? path
  case none => exact ⟨os, rfl, by simp⟩
  case some b =>
    cases b.eq_table_or_ne
    case inr hn => exact ⟨os, congrArg some (merge_of_ne_table hn _), by simp [hn]⟩
    case inl ht =>
      have ⟨bs, hb⟩ := ht
      subst hb
      exact ⟨mergeMembers bs os, rfl, by simp [mem_keys_mergeMembers_iff]⟩

theorem overlaid_merge_base : Overlaid base overlay (merge base overlay) where
  value     := fun _ _ => get?_merge_of_ne_table
  blocked   := by
    intro path ⟨front, key, rest, hp, e, he, hn⟩
    rw [hp, get?_append, get?_merge_of_ne_table he hn, Option.bind_some, get?_of_ne_table hn]
  uncovered := by
    intro path ho hb
    rw [get?_merge hb, ho, Option.elim_none]
  table     := fun _ _ => get?_merge_of_table

-- Into tables by their keys.
@[elab_as_elim]
theorem tableInduction {motive : Datum → Prop}
    (other : ∀ d, (∀ ms, d ≠ .table ms) → motive d)
    (table : ∀ ms, (∀ key d, ms.lookup key = some d → motive d) → motive (.table ms)) :
    ∀ d, motive d
  | .table ms => table ms fun key d h =>
    have := List.sizeOf_lt_of_mem (Keyed.mem_of_lookup_eq_some h)
    tableInduction other table d
  | .null | .bool _ | .int _ | .float _ | .text _ | .date _ | .list _ => other _ nofun
termination_by d => sizeOf d
decreasing_by
  simp at this ⊢
  omega

-- Every table has each of its keys once, in ascending order.
def IsOrdered (d : Datum) : Prop :=
  ∀ path ms, d.get? path = some (.table ms) → Keyed.Sorted ms

namespace IsOrdered

theorem of_ne_table (h : ∀ ms, d ≠ .table ms) : d.IsOrdered := by
  intro path ms hm
  cases path
  case nil  => exact absurd (Option.some.inj hm) (h ms)
  case cons => simp [get?_of_ne_table h] at hm

theorem table_iff :
    (Datum.table ms).IsOrdered ↔ Keyed.Sorted ms ∧ ∀ m ∈ ms, m.2.IsOrdered := by
  constructor
  case mp =>
    intro h
    have hs := h [] ms rfl
    refine ⟨hs, fun m hm path os ho => h (m.1 :: path) os ?_⟩
    rw [get?_cons_table, Keyed.lookup_eq_some_of_mem hs.nodup_keys hm, Option.bind_some, ho]
  case mpr =>
    intro ⟨hs, h⟩ path os ho
    cases path
    case nil =>
      cases ho
      exact hs
    case cons key path =>
      have ⟨d, hd, ho⟩ := Option.bind_eq_some_iff.mp ho
      exact h _ (Keyed.mem_of_lookup_eq_some hd) path os ho

theorem sorted_of_merge_eq (h : Datum.merge base overlay = .table ms)
    (hb : ∀ bs, base = .table bs → Keyed.Sorted bs)
    (ho : ∀ os, overlay = .table os → Keyed.Sorted os) : Keyed.Sorted ms := by
  cases overlay.eq_table_or_ne
  case inr hn => exact ho ms (merge_overlay_of_ne_table hn ▸ h)
  case inl ht =>
    have ⟨os, he⟩ := ht
    subst he
    cases base.eq_table_or_ne
    case inr hn =>
      rw [merge_of_ne_table hn] at h
      exact ho ms h
    case inl ht =>
      have ⟨bs, he⟩ := ht
      subst he
      cases h
      exact sorted_mergeMembers (hb bs rfl)

theorem merge (hb : base.IsOrdered) (ho : overlay.IsOrdered) :
    (Datum.merge base overlay).IsOrdered := by
  intro path ms hm
  by_cases hp : overlay.IsBlocked path
  case pos => simp [overlaid_merge_base.blocked path hp] at hm
  case neg =>
    rw [get?_merge hp] at hm
    cases hc : overlay.get? path <;> rw [hc] at hm
    case none => exact hb path ms hm
    case some o =>
      cases hd : base.get? path <;> rw [hd] at hm
      case none   => exact ho path ms (hc.trans hm)
      case some b =>
        refine sorted_of_merge_eq (Option.some.inj hm) (fun bs he => ?_) fun os he => ?_
        · exact hb path bs (he ▸ hd)
        · exact ho path os (he ▸ hc)

-- The paths tell ordered data apart.
theorem eq_of_agree (hd : d.IsOrdered) (he : e.IsOrdered)
    (h : ∀ path, Agree (d.get? path) (e.get? path)) : d = e := by
  have hr : Agree (some d) (some e) := h []
  induction d using tableInduction generalizing e
  case other d hn =>
    cases hr
    case same   => rfl
    case tables => exact absurd rfl (hn _)
  case table ms hi =>
    cases hr
    case same         => rfl
    case tables os hk =>
      have ⟨hms, hd⟩ := table_iff.mp hd
      have ⟨hos, he⟩ := table_iff.mp he
      refine congrArg _ <| hms.eq_of_lookup hos fun key => ?_
      cases hm : ms.lookup key
      case none =>
        have hn := (hk key).not.mp (Keyed.lookup_eq_none_iff.mp hm)
        exact (Keyed.lookup_eq_none_iff.mpr hn).symm
      case some d =>
        have ⟨e, hl⟩ := Keyed.mem_keys_iff_exists.mp <|
          (hk key).mp <| Keyed.mem_keys_iff_exists.mpr ⟨d, hm⟩
        have ha : ∀ path, Agree (d.get? path) (e.get? path) := by
          intro path
          have ha := h (key :: path)
          rwa [get?_cons_table, get?_cons_table, hm, hl] at ha
        have hd := hd _ (Keyed.mem_of_lookup_eq_some hm)
        have he := he _ (Keyed.mem_of_lookup_eq_some hl)
        rw [hl, hi key d hm hd he ha (ha [])]

end IsOrdered

-- An overlay is laid over a base exactly, at every path. Of data whose tables hold each key once
-- there is no other that does the same, and so the overlay can be laid over it once more without a
-- change.
theorem overlaid_merge (base overlay : Datum) :
    Overlaid base overlay (merge base overlay) ∧
    (base.IsOrdered → overlay.IsOrdered →
      (merge base overlay).IsOrdered ∧
      (∀ d : Datum, d.IsOrdered → Overlaid base overlay d → d = merge base overlay) ∧
      merge (merge base overlay) overlay = merge base overlay) := by
  refine ⟨overlaid_merge_base, fun hb ho => ?_⟩
  have hm := hb.merge ho
  refine ⟨hm, fun d hd h => hd.eq_of_agree hm (h.agree overlaid_merge_base), ?_⟩
  exact (hm.merge ho).eq_of_agree hm (overlaid_merge_base.agree overlaid_merge_base.again)

-- Tables over what is no table and the other way around, at two depths.
theorem overlaid_merge_mixed :
    let base : Datum := .table [
      ("parse", .table [("levels", .table [("max", .int 3)]), ("strict", .bool false)]),
      ("project", .text "none"), ("validation", .table [])]
    let overlay : Datum := .table [
      ("parse", .table [("levels", .int 4), ("pairs", .table [("strict", .bool true)])]),
      ("project", .table [("phone", .date "1979-05-27")])]
    base.IsOrdered ∧ overlay.IsOrdered ∧ Overlaid base overlay (merge base overlay) ∧
      (merge base overlay).IsOrdered ∧
      (∀ d : Datum, d.IsOrdered → Overlaid base overlay d → d = merge base overlay) ∧
      merge (merge base overlay) overlay = merge base overlay := by
  intro base overlay
  have hb : base.IsOrdered := by
    simp [base, IsOrdered.table_iff, IsOrdered.of_ne_table]
    decide
  have ho : overlay.IsOrdered := by
    simp [overlay, IsOrdered.table_iff, IsOrdered.of_ne_table]
    decide
  have ⟨h, hm⟩ := overlaid_merge base overlay
  exact ⟨hb, ho, h, hm hb ho⟩

end MenuOutline.Datum
