import MenuOutline.Link
import MenuOutline.Proofs.Text.Exchange

-- Paths of files. Main statement: the path below the root is what is left of a path once all steps
-- in front are dropped, and there is but one way to drop them.

namespace MenuOutline.Link

variable {cs rest step : List Char}

-- The steps that stay at the root: to the directory itself, to the one above it, to the root.
def steps : List (List Char) :=
  ["./".toList, "../".toList, "/".toList]

-- What is left of a text behind a way of steps, if it does not go on with another step.
structure IsBelow (cs rest : List Char) : Prop where
  way   : ∃ way : List (List Char), (∀ step ∈ way, step ∈ steps) ∧ cs = way.flatten ++ rest
  first : ∀ step ∈ steps, ¬step <+: rest

theorem length_pos_of_mem_steps (h : step ∈ steps) : 0 < step.length := by
  have hp : ∀ step ∈ steps, 0 < step.length := by decide
  exact hp step h

theorem dropRelative_step (h : step ∈ steps) : dropRelative (step ++ cs) = dropRelative cs := by
  simp only [steps, List.mem_cons, List.not_mem_nil, or_false] at h
  obtain rfl | rfl | rfl := h <;> rfl

theorem dropRelative_eq_self (h : ∀ step ∈ steps, ¬step <+: cs) : dropRelative cs = cs := by
  unfold dropRelative
  split
  case h_1 cs => exact absurd (List.prefix_append "./".toList cs) (h _ (by decide))
  case h_2 cs => exact absurd (List.prefix_append "../".toList cs) (h _ (by decide))
  case h_3 cs => exact absurd (List.prefix_append "/".toList cs) (h _ (by decide))
  case h_4    => rfl

theorem IsBelow.step_append (hs : step ∈ steps) (h : IsBelow cs rest) :
    IsBelow (step ++ cs) rest := by
  have ⟨way, hw, he⟩ := h.way
  refine ⟨⟨step :: way, List.forall_mem_cons.mpr ⟨hs, hw⟩, ?_⟩, h.first⟩
  rw [he, List.flatten_cons, List.append_assoc]

-- Every step makes the text shorter.
theorem isBelow_dropRelative (cs : List Char) : IsBelow cs (dropRelative cs) := by
  by_cases h : ∃ step ∈ steps, step <+: cs
  case pos =>
    have ⟨step, hs, rest, he⟩ := h
    have hl : rest.length < cs.length := by
      rw [← he, List.length_append]
      exact Nat.lt_add_of_pos_left <| length_pos_of_mem_steps hs
    rw [← he, dropRelative_step hs]
    exact (isBelow_dropRelative rest).step_append hs
  case neg =>
    have hn : ∀ step ∈ steps, ¬step <+: cs := fun step hs hp => h ⟨step, hs, hp⟩
    rw [dropRelative_eq_self hn]
    exact ⟨⟨[], nofun, rfl⟩, hn⟩
termination_by cs.length

-- Whatever way is gone, no other one leads further or less far.
theorem IsBelow.eq_dropRelative (h : IsBelow cs rest) : rest = dropRelative cs := by
  obtain ⟨⟨way, hw, rfl⟩, hf⟩ := h
  induction way
  case nil => exact (dropRelative_eq_self hf).symm
  case cons step way hi =>
    have ⟨hs, hw⟩ := List.forall_mem_cons.mp hw
    rw [List.flatten_cons, List.append_assoc, dropRelative_step hs]
    exact hi hw

theorem isBelow_iff : IsBelow cs rest ↔ rest = dropRelative cs :=
  ⟨IsBelow.eq_dropRelative, fun h => h ▸ isBelow_dropRelative cs⟩

theorem dropRelative_suffix (cs : List Char) : dropRelative cs <:+ cs := by
  have ⟨way, _, he⟩ := (isBelow_dropRelative cs).way
  exact ⟨way.flatten, he.symm⟩

theorem toList_assetPath (path : String) :
    (assetPath path).toList = dropRelative (Text.exchange '\\' '/' path.toList) :=
  String.toList_ofList

-- Of a path nothing is lost but the steps in front, and of these all. So the path of a file has no
-- way to the root left in front, and it is its own path.
theorem assetPath_below_root (path : String) :
    (∀ rest, IsBelow (Text.exchange '\\' '/' path.toList) rest ↔ rest = (assetPath path).toList) ∧
    '\\' ∉ (assetPath path).toList ∧ (assetPath path).toList.head? ≠ some '/' ∧
    assetPath (assetPath path) = assetPath path := by
  have hb : IsBelow (Text.exchange '\\' '/' path.toList) (assetPath path).toList :=
    isBelow_iff.mpr (toList_assetPath path)
  have hs : '\\' ∉ (assetPath path).toList := by
    intro h
    rw [toList_assetPath] at h
    exact Text.notMem_exchange (by decide) <| (dropRelative_suffix _).mem h
  refine ⟨fun rest => ?_, hs, ?_, ?_⟩
  · rw [isBelow_iff, toList_assetPath]
  · intro h
    have ⟨cs, hc⟩ := List.head?_eq_some_iff.mp h
    exact hb.first "/".toList (by decide) ⟨cs, hc.symm⟩
  · apply String.toList_injective
    rw [toList_assetPath, Text.exchange_eq_self hs]
    exact dropRelative_eq_self hb.first

end MenuOutline.Link
