import MenuOutline.Proofs.Text.Order

namespace MenuOutline.Text

namespace Decomposition

variable {c : Char} {cs : List Char} {n : Nat} {codes : List Nat}

-- A composed character is a Hangul syllable or stands in one of the blocks.
theorem parts_eq_or (c : Char) : parts c = [c] ∨ ∃ codes, parts c = codes.map Char.ofNat ∧
    (hangul? c.toNat = some codes ∨
      ∃ b ∈ blocks, (b.first ≤ c.toNat ∧ c.toNat ≤ b.last) ∧ (c.toNat, codes) ∈ b.entries) := by
  unfold parts
  split
  case isTrue => exact .inl rfl
  case isFalse =>
    split
    case h_2 => exact .inl rfl
    case h_1 codes h =>
      refine .inr ⟨codes, rfl, (Option.or_eq_some_iff.mp h).imp_right fun ⟨_, h⟩ => ?_⟩
      have ⟨b, hb, he⟩ := Option.bind_eq_some_iff.mp h
      have ⟨before, after, hs, _⟩ := List.lookup_eq_some_iff.mp he
      refine ⟨b, List.mem_of_find?_eq_some hb, by simpa using List.find?_some hb, ?_⟩
      exact hs ▸ List.mem_append_right _ (.head _)

-- The parts of a syllable are jamo.
theorem hangul?_eq_some (h : hangul? n = some codes) :
    (0xAC00 ≤ n ∧ n ≤ 0xD7A3) ∧ ∀ k ∈ codes, 0x1100 ≤ k ∧ k ≤ 0x11C2 := by
  unfold hangul? at h
  split at h <;> cases h
  case isTrue hn =>
    refine ⟨hn, fun k hk => ?_⟩
    simp only [List.mem_append, List.mem_cons, List.not_mem_nil, or_false] at hk
    obtain (hk | hk) | hk := hk
    · omega
    · omega
    · split at hk <;> simp at hk
      omega

theorem code_of_ofNat_eq_ampersand (h : Char.ofNat n = '&') : n = 0x26 := by
  have hn := Char.toNat_ofNat n
  rw [h] at hn
  split at hn
  case isTrue  => exact hn.symm
  case isFalse => contradiction

-- No other character has an ampersand for a part.
theorem eq_of_ampersand_mem_parts (h : '&' ∈ parts c) : c = '&' := by
  have ht : ∀ b ∈ blocks, ∀ e ∈ b.entries, 0x26 ∉ e.2 := by decide +kernel
  obtain hc | ⟨codes, hc, hs⟩ := parts_eq_or c
  case inl => exact (List.mem_singleton.mp (hc ▸ h)).symm
  case inr =>
    have ⟨n, hn, he⟩ := List.mem_map.mp (hc ▸ h)
    have hn : 0x26 ∈ codes := code_of_ofNat_eq_ampersand he ▸ hn
    obtain hh | ⟨b, hb, _, hm⟩ := hs
    case inl =>
      have := (hangul?_eq_some hh).right _ hn
      omega
    case inr => exact absurd hn (ht b hb _ hm)

-- There are no marks among the first characters, and none of them is composed.
theorem order_eq_self (h : ∀ c ∈ cs, c.toNat < 0x300) : order cs = cs := by
  have hc : ∀ c ∈ cs, combiningClass c = 0 := fun c hc => if_pos (h c hc)
  simpa [order] using order_bases_append hc []

theorem flatMap_parts_of_whole (h : ∀ c ∈ cs, parts c = [c]) : cs.flatMap parts = cs :=
  (List.flatMap_congr h).trans (List.flatMap_singleton' cs)

theorem flatMap_parts_eq_self (h : ∀ c ∈ cs, c.toNat < 0xC0) : cs.flatMap parts = cs :=
  flatMap_parts_of_whole fun c hc => if_pos (h c hc)

end Decomposition

open Decomposition in
theorem ampersand_mem_of_withoutDiacritics {cs : List Char} (h : '&' ∈ withoutDiacritics cs) :
    '&' ∈ cs := by
  have h := (order_perm _).mem_iff.mp (List.mem_filter.mp h).left
  have ⟨c, hc, hp⟩ := List.mem_flatMap.mp h
  exact eq_of_ampersand_mem_parts hp ▸ hc

open Decomposition in
theorem withoutDiacritics_eq_self {cs : List Char} (h : ∀ c ∈ cs, c.toNat < 0xC0) :
    withoutDiacritics cs = cs := by
  have hm : ∀ c ∈ cs, c.toNat < 0x300 := fun c hc => (h c hc).trans (by decide)
  rw [withoutDiacritics, decompose, flatMap_parts_eq_self h, order_eq_self hm]
  refine List.filter_eq_self.mpr fun c hc => ?_
  simp [isDiacritic, hm c hc]

end MenuOutline.Text
