import MenuOutline.Keyed
import Mathlib.Data.List.Basic

namespace MenuOutline.Keyed

variable {α : Type} {key k : String} {a : α} {ps qs : Keyed α} {names : List String}

theorem mem_keys_iff : k ∈ ps.map (·.1) ↔ (ps.lookup k).isSome := by
  simp only [List.lookup_isSome_iff, List.mem_map, beq_iff_eq, @eq_comm _ k]

theorem mem_keys_iff_exists : k ∈ ps.map (·.1) ↔ ∃ a, ps.lookup k = some a :=
  mem_keys_iff.trans Option.isSome_iff_exists

theorem mem_keys_insert_iff :
    k ∈ (ps.insert key a).map (·.1) ↔ k = key ∨ k ∈ ps.map (·.1) := by
  rw [mem_keys_iff, mem_keys_iff]
  by_cases h : k = key
  case pos => simp [h]
  case neg => simp [h, lookup_insert_of_ne h]

def Sorted (ps : Keyed α) : Prop :=
  (ps.map (·.1)).Pairwise (· < ·)

instance : Decidable ps.Sorted :=
  inferInstanceAs <| Decidable <| List.Pairwise _ _

namespace Sorted

theorem nil : Sorted ([] : Keyed α) :=
  List.Pairwise.nil

theorem nodup_keys (h : Sorted ps) : (ps.map (·.1)).Nodup :=
  h.imp Std.ne_of_lt

theorem insert (h : Sorted ps) (key : String) (a : α) : Sorted (ps.insert key a) := by
  induction ps
  case nil => exact List.pairwise_singleton ..
  case cons p ps hi =>
    have ⟨hp, hs⟩ := List.pairwise_cons.mp h
    unfold Keyed.insert
    split
    case isTrue hl =>
      refine .cons (List.forall_mem_cons.mpr ⟨hl, ?_⟩) h
      exact fun k hk => String.lt_trans hl <| hp k hk
    case isFalse hl =>
      split
      case isTrue he => exact List.pairwise_cons.mpr ⟨he ▸ hp, hs⟩
      case isFalse he =>
        refine .cons (fun k hk => ?_) <| hi hs
        cases mem_keys_insert_iff.mp hk
        case inl hk => exact hk ▸ Std.lt_of_le_of_ne hl (Ne.symm he)
        case inr hk => exact hp k hk

-- There is one order for the pairs of a list.
theorem eq_of_perm (hp : Sorted ps) (hq : Sorted qs) (h : ps.Perm qs) : ps = qs := by
  unfold Sorted at hp hq
  rw [List.pairwise_map] at hp hq
  refine h.eq_of_pairwise (fun _ _ _ _ hl hg => ?_) hp hq
  exact absurd (String.lt_trans hl hg) <| String.lt_irrefl _

end Sorted

theorem insert_perm (h : key ∉ ps.map (·.1)) (a : α) :
    (ps.insert key a).Perm ((key, a) :: ps) := by
  induction ps
  case nil => exact .refl _
  case cons p ps hi =>
    have ⟨hn, h⟩ := not_or.mp <| mt List.mem_cons.mpr h
    rw [insert, if_neg hn]
    split
    case isTrue  => exact .refl _
    case isFalse => exact ((hi h).cons p).trans <| .swap ..

-- Takes pairs up one by one, the last one first.
def gather (ps : List (String × α)) : Keyed α :=
  ps.foldr (fun (key, a) acc => acc.insert key a) []

theorem sorted_gather (ps : List (String × α)) : Sorted (gather ps) := by
  induction ps
  case nil => exact .nil
  case cons p ps hi => exact hi.insert p.1 p.2

theorem gather_perm {ps : List (String × α)} (h : (ps.map (·.1)).Nodup) :
    (gather ps).Perm ps := by
  induction ps
  case nil => exact .refl _
  case cons p ps hi =>
    have ⟨hp, h⟩ := List.nodup_cons.mp h
    have hi := hi h
    exact (insert_perm (mt ((hi.map _).mem_iff.mp) hp) _).trans <| hi.cons p

-- Pairs that are taken up come to stand in their order.
theorem gather_eq_of_perm {ps : List (String × α)} (h : Sorted qs) (hp : ps.Perm qs) :
    gather ps = qs :=
  have hn := (hp.map (·.1)).nodup_iff.mpr h.nodup_keys
  (sorted_gather ps).eq_of_perm h <| (gather_perm hn).trans hp

theorem lookup_eq_some_of_mem {ps : List (String × α)} (h : (ps.map (·.1)).Nodup)
    (hm : (key, a) ∈ ps) : ps.lookup key = some a := by
  have ⟨before, after, hs⟩ := List.append_of_mem hm
  refine List.lookup_eq_some_iff.mpr ⟨before, after, hs, fun p hp => bne_iff_ne.mpr fun he => ?_⟩
  rw [hs, List.map_append] at h
  exact (List.nodup_append.mp h).2.2 p.1 (List.mem_map_of_mem hp) key (by simp) he.symm

-- The pairs of the keys that are named, in the order in which they are named.
def select (ps : Keyed α) : List String → Keyed α
  | [] => []
  | k :: ks => ((ps.lookup k).toList.map (k, ·)) ++ select ps ks

theorem select_cons_of_notMem (h : k ∉ names) (a : α) (ps : Keyed α) :
    select ((k, a) :: ps) names = ps.select names := by
  induction names
  case nil => rfl
  case cons n names hi =>
    have ⟨hn, h⟩ := not_or.mp <| mt List.mem_cons.mpr h
    rw [select, select, hi h, List.lookup_cons, beq_false_of_ne (Ne.symm hn)]

theorem select_eq_map {f : String → α} (h : ∀ k ∈ names, ps.lookup k = some (f k)) :
    ps.select names = names.map fun k => (k, f k) := by
  induction names
  case nil => rfl
  case cons n names hi =>
    have ⟨hn, h⟩ := List.forall_mem_cons.mp h
    rw [select, hn, hi h]
    rfl

theorem select_congr (h : ∀ k ∈ names, ps.lookup k = qs.lookup k) :
    ps.select names = qs.select names := by
  induction names
  case nil => rfl
  case cons n names hi =>
    have ⟨hn, h⟩ := List.forall_mem_cons.mp h
    rw [select, select, hn, hi h]

theorem mem_names_of_select (h : k ∈ (ps.select names).map (·.1)) : k ∈ names := by
  induction names
  case nil => contradiction
  case cons n names hi =>
    rw [select, List.map_append, List.mem_append] at h
    cases h
    case inl h =>
      cases hl : ps.lookup n
      case none   => simp [hl] at h
      case some a =>
        rw [hl] at h
        exact List.mem_singleton.mp h ▸ .head _
    case inr h => exact .tail _ (hi h)

theorem lookup_eq_none_iff : ps.lookup key = none ↔ key ∉ ps.map (·.1) := by
  rw [mem_keys_iff, Bool.not_eq_true, Option.isSome_eq_false_iff, Option.isNone_iff_eq_none]

-- Pairs in ascending order are found again in that order.
theorem Sorted.select_eq (h : Sorted ps) (hn : names.Pairwise (· < ·))
    (hk : ∀ k ∈ ps.map (·.1), k ∈ names) : ps.select names = ps := by
  induction names generalizing ps
  case nil =>
    cases ps
    case nil       => rfl
    case cons p ps => exact absurd (hk p.1 (.head _)) List.not_mem_nil
  case cons n names hi =>
    have ⟨hlt, hns⟩ := List.pairwise_cons.mp hn
    by_cases hm : n ∈ ps.map (·.1)
    case neg =>
      rw [select, lookup_eq_none_iff.mpr hm]
      refine hi h hns fun k hp => (List.mem_cons.mp (hk k hp)).resolve_left ?_
      rintro rfl
      exact hm hp
    case pos =>
      cases ps
      case nil => contradiction
      case cons p ps =>
        obtain ⟨k, a⟩ := p
        have ⟨hp, hs⟩ := List.pairwise_cons.mp h
        -- The name is the first key: a key before it would have to be named after it.
        have he : n = k := by
          cases List.mem_cons.mp hm
          case inl he => exact he
          case inr hm =>
            have hkn := (List.mem_cons.mp <| hk k (.head _)).resolve_left
              fun he => String.lt_irrefl n <| he ▸ hp n hm
            exact absurd (String.lt_trans (hp n hm) (hlt _ hkn)) <| String.lt_irrefl _
        subst he
        have hk' : ∀ k ∈ ps.map (·.1), k ∈ names := fun k hm =>
          (List.mem_cons.mp <| hk k (.tail _ hm)).resolve_left
            fun he => String.lt_irrefl _ <| he ▸ hp k hm
        rw [select, select_cons_of_notMem fun hm => String.lt_irrefl _ <| hlt _ hm, hi hs hns hk',
          List.lookup_cons_self]
        rfl

theorem mem_of_lookup_eq_some (h : ps.lookup key = some a) : (key, a) ∈ ps := by
  have ⟨before, after, hs, _⟩ := List.lookup_eq_some_iff.mp h
  exact hs ▸ List.mem_append_right _ (.head _)

theorem mem_iff_lookup_eq_some (h : (ps.map (·.1)).Nodup) :
    (key, a) ∈ ps ↔ ps.lookup key = some a :=
  ⟨lookup_eq_some_of_mem h, mem_of_lookup_eq_some⟩

theorem Sorted.nodup (h : Sorted ps) : ps.Nodup :=
  (List.pairwise_map.mp h).imp fun hl => ne_of_apply_ne (·.1) (Std.ne_of_lt hl)

-- What is found under the keys decides on sorted pairs.
theorem Sorted.eq_of_lookup (hp : Sorted ps) (hq : Sorted qs)
    (h : ∀ k, ps.lookup k = qs.lookup k) : ps = qs := by
  refine hp.eq_of_perm hq <| (List.perm_ext_iff_of_nodup hp.nodup hq.nodup).mpr fun (k, a) => ?_
  rw [mem_iff_lookup_eq_some hp.nodup_keys, mem_iff_lookup_eq_some hq.nodup_keys, h]

end MenuOutline.Keyed
