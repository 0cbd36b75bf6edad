import MenuOutline.Proofs.Text.Decomposition

-- Canonical equivalence: texts that stand for the same characters, some composed and some in parts.
-- Main statement: two texts are equivalent exactly if they have the same decomposition, which is
-- itself decomposed.

namespace MenuOutline.Text

namespace Decomposition

variable {c d : Char} {cs ds : List Char} {n k : Nat} {codes : List Nat}

theorem toNat_ofNat (h : n < 0xD800 ∨ 0xDFFF < n ∧ n < 0x110000) : (Char.ofNat n).toNat = n := by
  rw [Char.toNat_ofNat, if_pos h]

theorem parts_ofNat_of_jamo (h : 0x1100 ≤ k ∧ k ≤ 0x11C2) : parts (.ofNat k) = [.ofNat k] := by
  have hb : ∀ b ∈ blocks, ∀ e ∈ b.entries, e.1 < 0x1100 ∨ 0x11C2 < e.1 := by decide +kernel
  have hk : (Char.ofNat k).toNat = k := toNat_ofNat (.inl (by omega))
  obtain he | ⟨codes, _, hh | ⟨b, hm, _, he⟩⟩ := parts_eq_or (.ofNat k)
  case inl => exact he
  case inr.inl =>
    have := (hangul?_eq_some hh).left
    omega
  case inr.inr =>
    have := hb b hm _ he
    omega

-- The blocks decompose to the end.
theorem parts_of_mem_entries : ∀ b ∈ blocks, ∀ e ∈ b.entries, ∀ k ∈ e.2,
    parts (.ofNat k) = [.ofNat k] := by
  decide +kernel

theorem parts_of_mem_parts (h : d ∈ parts c) : parts d = [d] := by
  obtain hc | ⟨codes, hc, hh | ⟨b, hb, _, he⟩⟩ := parts_eq_or c
  case inl =>
    have hd := List.mem_singleton.mp (hc ▸ h)
    rw [hd, hc]
  all_goals
    have ⟨k, hk, hd⟩ := List.mem_map.mp (hc ▸ h)
    rw [← hd]
  case inr.inl => exact parts_ofNat_of_jamo <| (hangul?_eq_some hh).right k hk
  case inr.inr => exact parts_of_mem_entries b hb _ he k hk

-- A composed mark is made of marks of its own class.
theorem class_of_mem_entries : blocks.all fun b => (alphabetMarks ++ otherMarks).all fun r =>
    r.2.1 < b.first || b.last < r.1 || b.entries.all fun e =>
      e.1 < r.1 || r.2.1 < e.1 || e.2.all fun k => combiningClass (.ofNat k) == r.2.2 := by
  decide +kernel

theorem exists_of_elim_pos {α : Type} {o : Option α} {f : α → Nat} (h : 0 < o.elim 0 f) :
    ∃ r, o = some r ∧ o.elim 0 f = f r := by
  cases o
  case none   => contradiction
  case some r => exact ⟨r, rfl, rfl⟩

theorem exists_of_class_pos (h : 0 < combiningClass c) : ∃ r ∈ alphabetMarks ++ otherMarks,
    (r.1 ≤ c.toNat ∧ c.toNat ≤ r.2.1) ∧ combiningClass c = r.2.2 := by
  have hn : ¬c.toNat < 0x300 := fun hn => by simp [combiningClass, hn] at h
  rw [combiningClass, if_neg hn] at h
  have ⟨r, hf, hl⟩ := exists_of_elim_pos h
  exact ⟨r, List.mem_of_find?_eq_some hf, by simpa using List.find?_some hf, (if_neg hn).trans hl⟩

theorem class_of_mem_parts (hc : 0 < combiningClass c) (h : d ∈ parts c) :
    combiningClass d = combiningClass c := by
  have ⟨r, hr, hn, hl⟩ := exists_of_class_pos hc
  obtain he | ⟨codes, he, hh | ⟨b, hb, hs, hm⟩⟩ := parts_eq_or c
  case inl =>
    have hd : d = c := List.mem_singleton.mp (he ▸ h)
    rw [hd]
  case inr.inl =>
    have hs : ∀ r ∈ alphabetMarks ++ otherMarks, r.2.1 < 0xAC00 ∨ 0xD7A3 < r.1 := by
      decide +kernel
    have := (hangul?_eq_some hh).left
    have := hs r hr
    omega
  case inr.inr =>
    have ⟨k, hk, hd⟩ := List.mem_map.mp (he ▸ h)
    have ha := List.all_eq_true.mp (List.all_eq_true.mp class_of_mem_entries b hb) r hr
    have hf : ¬r.2.1 < b.first ∧ ¬b.last < r.1 := by omega
    simp only [hf.left, hf.right, decide_false, Bool.false_or] at ha
    have ha := List.all_eq_true.mp ha _ hm
    simp only [Nat.not_lt.mpr hn.left, Nat.not_lt.mpr hn.right, decide_false, Bool.false_or] at ha
    rw [hl, ← hd]
    simpa using List.all_eq_true.mp ha k hk

theorem insert_foldr_insert (hc : 0 < combiningClass c) (hds : ∀ d ∈ ds, 0 < combiningClass d)
    (h : ∀ d ∈ ds, combiningClass c ≠ combiningClass d) (as : List Char) :
    insert c (ds.foldr insert as) = ds.foldr insert (insert c as) := by
  induction ds
  case nil => rfl
  case cons d ds hi =>
    have ⟨hd, hds⟩ := List.forall_mem_cons.mp hds
    have ⟨hn, h⟩   := List.forall_mem_cons.mp h
    rw [List.foldr_cons, insert_insert hc hd hn, hi hds h, List.foldr_cons]

theorem foldr_insert_comm (hcs : ∀ c ∈ cs, 0 < combiningClass c)
    (hds : ∀ d ∈ ds, 0 < combiningClass d)
    (h : ∀ c ∈ cs, ∀ d ∈ ds, combiningClass c ≠ combiningClass d) (as : List Char) :
    cs.foldr insert (ds.foldr insert as) = ds.foldr insert (cs.foldr insert as) := by
  induction cs
  case nil => rfl
  case cons c cs hi =>
    have ⟨hc, hcs⟩ := List.forall_mem_cons.mp hcs
    have ⟨hn, h⟩   := List.forall_mem_cons.mp h
    rw [List.foldr_cons, hi hcs h, insert_foldr_insert hc hds hn, List.foldr_cons]

end Decomposition

open Decomposition

variable {c d : Char} {as cs ds : List Char}

-- Texts that stand for the same characters. A composed character may be written in its parts, and
-- marks of different classes may change places.
inductive Equivalent : List Char → List Char → Prop
  | refl (cs : List Char) : Equivalent cs cs
  | symm {cs ds : List Char} : Equivalent cs ds → Equivalent ds cs
  | trans {as cs ds : List Char} : Equivalent as cs → Equivalent cs ds → Equivalent as ds
  | cons (c : Char) {cs ds : List Char} : Equivalent cs ds → Equivalent (c :: cs) (c :: ds)
  | parts (c : Char) (cs : List Char) : Equivalent (c :: cs) (parts c ++ cs)
  | swap {c d : Char} (cs : List Char) : 0 < combiningClass c → 0 < combiningClass d →
      combiningClass c ≠ combiningClass d → Equivalent (c :: d :: cs) (d :: c :: cs)

theorem Equivalent.append_left (h : Equivalent cs ds) (as : List Char) :
    Equivalent (as ++ cs) (as ++ ds) := by
  induction as
  case nil          => exact h
  case cons a as hi => exact hi.cons a

theorem equivalent_parts (cs : List Char) : Equivalent cs (cs.flatMap parts) := by
  induction cs
  case nil          => exact .refl []
  case cons c cs hi => exact (Equivalent.parts c cs).trans (hi.append_left _)

theorem equivalent_insert (c : Char) (cs : List Char) :
    Equivalent (c :: cs) (Decomposition.insert c cs) := by
  fun_induction Decomposition.insert c cs
  case case1 => exact .refl [c]
  case case2 d ds h hi =>
    have hs := Equivalent.swap ds (h.left.trans h.right) h.left (Nat.ne_of_gt h.right)
    exact hs.trans (hi.cons d)
  case case3 => exact .refl _

theorem equivalent_order (cs : List Char) : Equivalent cs (order cs) := by
  induction cs
  case nil          => exact .refl []
  case cons c cs hi => exact (hi.cons c).trans (equivalent_insert c _)

theorem equivalent_decompose (cs : List Char) : Equivalent cs (decompose cs) :=
  (equivalent_parts cs).trans (equivalent_order _)

theorem decompose_append (cs ds : List Char) :
    decompose (cs ++ ds) = (cs.flatMap parts).foldr insert (decompose ds) := by
  rw [decompose, List.flatMap_append, order_append]
  rfl

theorem decompose_cons (c : Char) (cs : List Char) :
    decompose (c :: cs) = (parts c).foldr insert (decompose cs) := by
  simpa using decompose_append [c] cs

theorem Equivalent.decompose_eq (h : Equivalent cs ds) : decompose cs = decompose ds := by
  induction h
  case refl              => rfl
  case symm hi           => exact hi.symm
  case trans hi hi'      => exact hi.trans hi'
  case cons c cs ds _ hi => rw [decompose_cons, hi, decompose_cons]
  case parts c cs =>
    have hp : (Decomposition.parts c).flatMap Decomposition.parts = Decomposition.parts c :=
      flatMap_parts_of_whole fun _ => parts_of_mem_parts
    rw [decompose_cons, decompose_append, hp]
  case swap c d cs hc hd hn =>
    simp only [decompose_cons]
    refine foldr_insert_comm (fun e he => ?_) (fun e he => ?_) (fun e he e' he' => ?_) _
    · rwa [class_of_mem_parts hc he]
    · rwa [class_of_mem_parts hd he]
    · rwa [class_of_mem_parts hc he, class_of_mem_parts hd he']

-- Equivalent texts have one decomposition, and no others have.
theorem equivalent_iff : Equivalent cs ds ↔ decompose cs = decompose ds := by
  refine ⟨Equivalent.decompose_eq, fun h => ?_⟩
  exact (equivalent_decompose cs).trans (h ▸ (equivalent_decompose ds).symm)

end MenuOutline.Text
