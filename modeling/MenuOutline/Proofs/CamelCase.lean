import MenuOutline.CamelCase
import MenuOutline.Proofs.Text.Words

namespace MenuOutline

variable {c : Char} {cs word : List Char}

namespace CamelCase

theorem isAlphanum_toUpper (h : c.isAlphanum) : c.toUpper.isAlphanum := by
  cases Bool.or_eq_true_iff.mp h
  case inl h => simp [Char.isAlphanum, h]
  case inr hd =>
    by_cases hl : c.isLower
    case pos => simp [Char.isAlphanum, Char.isAlpha, hl]
    case neg => rwa [Char.toUpper_eq_of_not_isLower hl]

theorem isAlphanum_toLower (h : c.isAlphanum) : c.toLower.isAlphanum := by
  cases Bool.or_eq_true_iff.mp h
  case inl h => simp [Char.isAlphanum, h]
  case inr hd =>
    by_cases hu : c.isUpper
    case pos => simp [Char.isAlphanum, Char.isAlpha, hu]
    case neg => rwa [Char.toLower_eq_of_not_isUpper hu]

theorem isAlphanum_of_mem_capitalize (h : ∀ c ∈ cs, c.isAlphanum) :
    ∀ c ∈ capitalize cs, c.isAlphanum := by
  cases cs
  case nil => exact nofun
  case cons d cs =>
    have ⟨hd, hcs⟩ := List.forall_mem_cons.mp h
    refine List.forall_mem_cons.mpr ⟨isAlphanum_toUpper hd, fun c hc => ?_⟩
    have ⟨e, he, hec⟩ := List.mem_map.mp hc
    exact hec ▸ isAlphanum_toLower (hcs e he)

theorem isAlphanum_of_mem_words (h : word ∈ Text.words (kept cs)) : ∀ c ∈ word, c.isAlphanum := by
  intro c hc
  have hk : c ∈ (kept cs).filter (!Text.isBlank ·) :=
    Text.flatten_words (kept cs) ▸ List.mem_flatten.mpr ⟨word, h, hc⟩
  have ⟨hk, hb⟩ := List.mem_filter.mp hk
  have hb : ¬Text.isBlank c := by simpa using hb
  have ⟨_, hk⟩ := List.mem_filter.mp hk
  simpa [hb] using hk

theorem isAlphanum_of_mem_ofChars (h : c ∈ ofChars cs) : c.isAlphanum := by
  have ⟨word, hw, hc⟩ := List.mem_flatMap.mp h
  exact isAlphanum_of_mem_capitalize (isAlphanum_of_mem_words hw) c hc

end CamelCase

theorem isAlphanum_of_mem_dictionaryKey {label : String} (h : c ∈ (dictionaryKey label).toList) :
    c.isAlphanum :=
  CamelCase.isAlphanum_of_mem_ofChars (by simpa [dictionaryKey] using h)

end MenuOutline
