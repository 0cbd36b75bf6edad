import MenuOutline.Proofs.CamelCase
import MenuOutline.Proofs.Text.Equivalence

-- Names in camel case fall apart where the text does: at its blanks.

namespace MenuOutline

variable {c d : Char} {blanks : List Char}

namespace Text

open Decomposition

theorem toNat_mem_of_isBlank (h : isBlank c) : c.toNat ∈ List.range' 0x09 5 ++
    List.range' 0x2000 11 ++ [0x20, 0x85, 0xA0, 0x1680, 0x2028, 0x2029, 0x202F, 0x205F, 0x3000] := by
  simp only [isBlank, Bool.or_eq_true, Bool.and_eq_true, decide_eq_true_eq, beq_iff_eq] at h
  simp only [List.mem_append, List.mem_range'_1, List.mem_cons, List.not_mem_nil, or_false]
  omega

-- A blank may be composed, but of blanks only.
theorem parts_of_isBlank (h : isBlank c) : parts c ≠ [] ∧ ∀ d ∈ parts c, isBlank d := by
  have hb : ∀ n ∈ List.range' 0x09 5 ++ List.range' 0x2000 11 ++
      [0x20, 0x85, 0xA0, 0x1680, 0x2028, 0x2029, 0x202F, 0x205F, 0x3000],
      parts (.ofNat n) ≠ [] ∧ (parts (.ofNat n)).all isBlank := by
    decide +kernel
  have h := hb _ (toNat_mem_of_isBlank h)
  rwa [Char.ofNat_toNat, List.all_eq_true] at h

theorem class_of_isBlank (h : isBlank c) : combiningClass c = 0 := by
  have hm : ∀ r ∈ alphabetMarks ++ otherMarks, 0x300 ≤ r.1 ∧ (r.2.1 < 0x1680 ∨ 0x1680 < r.1) ∧
      (r.2.1 < 0x2000 ∨ 0x205F < r.1) ∧ (r.2.1 < 0x3000 ∨ 0x3000 < r.1) := by
    decide +kernel
  by_contra hc
  have ⟨r, hr, hn, _⟩ := exists_of_class_pos (Nat.pos_of_ne_zero hc)
  have := hm r hr
  simp only [isBlank, Bool.or_eq_true, Bool.and_eq_true, decide_eq_true_eq, beq_iff_eq] at h
  omega

theorem not_isDiacritic_of_isBlank (h : isBlank c) : ¬isDiacritic c := by
  simp only [isBlank, isDiacritic, Bool.or_eq_true, Bool.and_eq_true, decide_eq_true_eq,
    beq_iff_eq] at h ⊢
  omega

-- The blanks between two texts keep their marks apart.
theorem exists_withoutDiacritics_append (h : ∀ c ∈ blanks, isBlank c) (hn : blanks ≠ [])
    (cs ds : List Char) : ∃ blanks', (∀ c ∈ blanks', isBlank c) ∧ blanks' ≠ [] ∧
      withoutDiacritics (cs ++ blanks ++ ds) =
        withoutDiacritics cs ++ blanks' ++ withoutDiacritics ds := by
  have hp : ∀ d ∈ blanks.flatMap parts, isBlank d := by
    intro d hd
    have ⟨c, hc, hd⟩ := List.mem_flatMap.mp hd
    exact (parts_of_isBlank (h c hc)).right d hd
  have hk : (blanks.flatMap parts).filter (!isDiacritic ·) = blanks.flatMap parts :=
    List.filter_eq_self.mpr fun d hd => by simp [not_isDiacritic_of_isBlank (hp d hd)]
  have hn' : blanks.flatMap parts ≠ [] := by
    have ⟨c, hc⟩ := List.exists_mem_of_ne_nil _ hn
    exact fun he => (parts_of_isBlank (h c hc)).left (List.flatMap_eq_nil_iff.mp he c hc)
  refine ⟨blanks.flatMap parts, hp, hn', ?_⟩
  simp only [withoutDiacritics, decompose, List.flatMap_append]
  rw [order_append_bases (fun d hd => class_of_isBlank (hp d hd)) hn', List.filter_append,
    List.filter_append, hk]

end Text

namespace CamelCase

theorem ofChars_append_blanks (h : ∀ c ∈ blanks, Text.isBlank c) (hn : blanks ≠ [])
    (cs ds : List Char) : ofChars (cs ++ blanks ++ ds) = ofChars cs ++ ofChars ds := by
  have ⟨blanks', h', hn', he⟩ := Text.exists_withoutDiacritics_append h hn cs ds
  have hk : kept (cs ++ blanks ++ ds) = kept cs ++ blanks' ++ kept ds := by
    have hb : blanks'.filter (fun c => c.isAlphanum || Text.isBlank c) = blanks' :=
      List.filter_eq_self.mpr fun c hc => by simp [h' c hc]
    rw [kept, he, List.filter_append, List.filter_append, hb, kept, kept]
  rw [ofChars, hk, Text.words_append_blanks h' hn', List.flatMap_append, ofChars, ofChars]

end CamelCase

-- The key of a label is put together word by word, of ASCII letters and digits.
theorem dictionaryKey_word_by_word :
    (∀ a blanks b : String, blanks ≠ "" → Text.isBlankText blanks.toList →
      dictionaryKey (a ++ blanks ++ b) = dictionaryKey a ++ dictionaryKey b) ∧
    ∀ label, ∀ c ∈ (dictionaryKey label).toList, c.isAlphanum := by
  refine ⟨fun a blanks b hn h => ?_, fun label c => isAlphanum_of_mem_dictionaryKey⟩
  have hb : ∀ c ∈ blanks.toList, Text.isBlank c := List.all_eq_true.mp h
  have hn : blanks.toList ≠ [] := by simpa using hn
  simp only [dictionaryKey, String.toList_append]
  rw [CamelCase.ofChars_append_blanks hb hn, String.ofList_append]

-- Blanks of other widths, a mark without a base behind them, and a word that vanishes.
theorem dictionaryKey_word_by_word_marked :
    dictionaryKey ("Què" ++ "\u2000\u3000" ++ "\u0301¿? éL") =
      dictionaryKey "Què" ++ dictionaryKey "\u0301¿? éL" :=
  dictionaryKey_word_by_word.left _ _ _ (by decide) (by decide)

end MenuOutline
