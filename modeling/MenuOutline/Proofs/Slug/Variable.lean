import MenuOutline.Proofs.Slug.Valid
import MenuOutline.Proofs.Text.Exchange

namespace MenuOutline

theorem Text.lowercase_eq_self {cs : List Char} (h : ∀ c ∈ cs, c.toNat < 0x80 ∧ ¬c.isUpper) :
    Text.lowercase cs = cs := by
  suffices h' : ∀ inWord, Lowercase.continueWord inWord cs = cs from h' false
  induction cs
  case nil => exact fun _ => rfl
  case cons c cs hi =>
    have ⟨⟨hc, hu⟩, hcs⟩ := List.forall_mem_cons.mp h
    have hd : c ≠ 'İ' ∧ c ≠ 'Σ' := by
      constructor <;> rintro rfl <;> contradiction
    intro inWord
    simp [Lowercase.continueWord, Lowercase.ofChar, hd, hc, hi hcs,
      Char.toLower_eq_of_not_isUpper hu]

namespace Slug

variable {inPart : Bool} {c : Char} {cs : List Char} {s : String}

theorem isSlugChar_or_eq_hyphen (h : partsValid inPart cs) : ∀ c ∈ cs, isSlugChar c ∨ c = '-' := by
  induction cs generalizing inPart
  case nil => exact nofun
  case cons c cs hi =>
    by_cases hc : c = '-' <;> simp only [partsValid, hc, if_true, if_false, Bool.and_eq_true] at h
    case pos => exact List.forall_mem_cons.mpr ⟨.inr hc, hi h.right⟩
    case neg => exact List.forall_mem_cons.mpr ⟨.inl h.left, hi h.right⟩

theorem toNat_lt_of_isSlugChar (h : isSlugChar c) : c.toNat < 0x80 ∧ ¬c.isUpper := by
  simp only [isSlugChar, Char.isLower, Char.isDigit, Char.isUpper, Bool.or_eq_true,
    Bool.and_eq_true, decide_eq_true_eq, UInt32.le_iff_toNat_le] at h ⊢
  have : c.toNat = c.val.toNat := rfl
  have : 'a'.val.toNat = 97 ∧ 'z'.val.toNat = 122 ∧ 'A'.val.toNat = 65 ∧ 'Z'.val.toNat = 90 ∧
    '0'.val.toNat = 48 ∧ '9'.val.toNat = 57 := by decide
  omega

def underscored (cs : List Char) : List Char :=
  cs.map fun c => if c = '-' then '_' else c

theorem isVariableChar_of_mem_underscored (h : ∀ c ∈ cs, isSlugChar c ∨ c = '-') :
    ∀ c ∈ underscored cs, isVariableChar c := by
  intro c hc
  have ⟨d, hd, hdc⟩ := List.mem_map.mp hc
  subst hdc
  cases h d hd
  case inl h =>
    have h' : d.isLower || d.isDigit := h
    rw [if_neg (ne_hyphen_of_isSlugChar h), isVariableChar, h', Bool.true_or]
  case inr h => simp [h, isVariableChar]

-- In a slug nothing but the hyphens gives way.
theorem variableName_eq_underscored (h : isValid s) :
    variableName s = .ofList (underscored s.toList) := by
  have hc := isSlugChar_or_eq_hyphen h
  have hl : Text.lowercase s.toList = s.toList := by
    apply Text.lowercase_eq_self
    intro c hm
    obtain h | rfl := hc c hm
    · exact toNat_lt_of_isSlugChar h
    · decide
  rw [variableName, variableChars, hl]
  exact congrArg _ <| List.filter_eq_self.mpr <| isVariableChar_of_mem_underscored hc

theorem underscored_eq_exchange (cs : List Char) : underscored cs = Text.exchange '-' '_' cs :=
  rfl

theorem underscore_notMem_of_isValid (h : isValid s) : '_' ∉ s.toList := by
  intro hm
  obtain hc | hc := isSlugChar_or_eq_hyphen h _ hm <;> contradiction

-- A slug has no underscore that its hyphens could be taken for.
theorem underscored_eq_iff {t : String} (hs : isValid s) (ht : isValid t) :
    underscored s.toList = underscored t.toList ↔ s = t := by
  refine ⟨fun h => String.toList_injective ?_, fun h => h ▸ rfl⟩
  rw [underscored_eq_exchange, underscored_eq_exchange] at h
  rw [← Text.exchange_exchange (underscore_notMem_of_isValid hs), h,
    Text.exchange_exchange (underscore_notMem_of_isValid ht)]

theorem isVariableChar_iff : isVariableChar c ↔ c.isLower ∨ c.isDigit ∨ c = '_' := by
  simp [isVariableChar, or_assoc]

theorem isVariableChar_of_mem_variableName : ∀ c ∈ (variableName s).toList, isVariableChar c := by
  intro c hc
  rw [variableName, String.toList_ofList] at hc
  exact (List.mem_filter.mp hc).right

theorem variableChars_eq_self (h : ∀ c ∈ cs, isVariableChar c) : variableChars cs = cs := by
  have hl : Text.lowercase cs = cs := by
    apply Text.lowercase_eq_self
    intro c hc
    cases Bool.or_eq_true_iff.mp (h c hc)
    case inl hs => exact toNat_lt_of_isSlugChar hs
    case inr hu => exact eq_of_beq hu ▸ by decide
  have hn : '-' ∉ cs := fun hm => absurd (h _ hm) (by decide)
  have he : (cs.map fun c => if c = '-' then '_' else c) = cs := Text.exchange_eq_self hn
  rw [variableChars, hl, he, List.filter_eq_self.mpr h]

-- Texts that may be variables are their own variables.
theorem variableName_eq_self (h : ∀ c ∈ s.toList, isVariableChar c) : variableName s = s := by
  rw [variableName, variableChars_eq_self h, String.ofList_toList]

end Slug
end MenuOutline
