import MenuOutline.Proofs.CamelCase
import MenuOutline.Proofs.Slug.Valid

-- The letters of a slug, without the hyphens between them. They are those of the dictionary key.

namespace MenuOutline

namespace Slug

variable {language text : String} {c : Char} {cs : List Char} {ps : List Piece}

def Piece.chars : Piece → List Char
  | .nothing | .gap => []
  | .letters cs | .word cs => cs

-- A slug without its hyphens.
def letters (slug : String) : List Char :=
  slug.toList.filter (· ≠ '-')

theorem IsPart.filter_eq_self (h : IsPart cs) : cs.filter (· ≠ '-') = cs :=
  List.filter_eq_self.mpr fun c hc => by
    simpa using ne_hyphen_of_isSlugChar <| List.all_eq_true.mp h.chars c hc

-- Between the letters only hyphens are written.
theorem filter_write (h : ∀ p ∈ ps, p.Proper) (started gap : Bool) :
    (write started gap ps).filter (· ≠ '-') = ps.flatMap Piece.chars := by
  induction ps generalizing started gap
  case nil => rfl
  case cons p ps hi =>
    have ⟨hp, hps⟩ := List.forall_mem_cons.mp h
    have hi := hi hps
    cases p
    case nothing => exact hi started gap
    case gap     => exact hi started true
    case letters cs =>
      have hc : cs.filter (· ≠ '-') = cs := IsPart.filter_eq_self hp
      cases started <;> cases gap <;>
        simp only [write, List.filter_append, hc, hi, List.flatMap_cons, Piece.chars] <;> rfl
    case word cs =>
      have hc : cs.filter (· ≠ '-') = cs := IsPart.filter_eq_self hp
      cases started <;>
        simp only [write, List.filter_append, hc, hi, List.flatMap_cons, Piece.chars] <;> rfl

theorem letters_ofText : letters (ofText language text) =
    (Text.withoutDiacritics text.toList).flatMap fun c => (piece language c).chars := by
  rw [letters, ofText, String.toList_ofList, filter_write proper_of_mem_map_piece, List.flatMap_map]

theorem not_isAlphanum_of_mem_silent (h : c ∈ silent) : ¬c.isAlphanum := by
  have hs : silent.all (!·.isAlphanum) := by decide
  simpa using List.all_eq_true.mp hs c h

theorem chars_piece (he : c ≠ '&') (hn : spelling? c = none) :
    (piece language c).chars = if c.isAlphanum then [c.toLower] else [] := by
  by_cases hs : c ∈ silent
  case pos => simp [piece, hs, not_isAlphanum_of_mem_silent hs, Piece.chars]
  case neg =>
    by_cases ha : c.isAlphanum
    case pos => simp [piece, hs, ha, Piece.chars]
    case neg => cases hl : Text.isAlphanumeric c <;> simp [piece, hs, ha, hn, he, hl, Piece.chars]

-- A letter that is not spelled out keeps its ASCII form, if it is one.
theorem flatMap_chars_piece (h : ∀ c ∈ cs, c ≠ '&' ∧ spelling? c = none) :
    (cs.flatMap fun c => (piece language c).chars) =
      (cs.filter Char.isAlphanum).map Char.toLower := by
  induction cs
  case nil => rfl
  case cons c cs hi =>
    have ⟨⟨he, hn⟩, hcs⟩ := List.forall_mem_cons.mp h
    rw [List.flatMap_cons, hi hcs, chars_piece he hn]
    cases ha : c.isAlphanum <;> simp [ha]

theorem letters_ofText_eq_nil_iff :
    letters (ofText language text) = [] ↔ ofText language text = "" := by
  cases ofText_eq_empty_or_isValid language text
  case inl he => exact iff_of_true (by rw [he]; rfl) he
  case inr hv =>
    rw [isValid] at hv
    rw [letters, ← String.toList_eq_nil_iff]
    cases hs : (ofText language text).toList
    case nil => rfl
    case cons c cs =>
      have hc : c ≠ '-' := by
        rintro rfl
        rw [hs] at hv
        contradiction
      simp [hc]

end Slug

namespace CamelCase

variable {c : Char}

theorem map_toLower_capitalize (cs : List Char) :
    (capitalize cs).map Char.toLower = cs.map Char.toLower := by
  cases cs <;> simp [capitalize]

theorem not_isBlank_of_isAlphanum (h : c.isAlphanum) : ¬Text.isBlank c := by
  have := Slug.toNat_of_isAlphanum h
  simp only [Text.isBlank, Bool.or_eq_true, Bool.and_eq_true, decide_eq_true_eq, beq_iff_eq]
  omega

-- The words of a key hold the ASCII letters and digits of the text.
theorem map_toLower_ofChars (cs : List Char) : (ofChars cs).map Char.toLower =
    ((Text.withoutDiacritics cs).filter Char.isAlphanum).map Char.toLower := by
  have hk : (kept cs).filter (!Text.isBlank ·) =
      (Text.withoutDiacritics cs).filter Char.isAlphanum := by
    rw [kept, List.filter_filter]
    refine List.filter_congr fun c _ => ?_
    cases ha : c.isAlphanum <;> cases hb : Text.isBlank c <;> simp
    exact not_isBlank_of_isAlphanum ha hb
  calc (ofChars cs).map Char.toLower
    _ = (Text.words (kept cs)).flatMap (·.map Char.toLower) := by
      simp only [ofChars, List.map_flatMap, map_toLower_capitalize]
    _ = (Text.words (kept cs)).flatten.map Char.toLower := by
      rw [List.map_flatten, List.flatMap_def]
    _ = ((Text.withoutDiacritics cs).filter Char.isAlphanum).map Char.toLower := by
      rw [Text.flatten_words, hk]

end CamelCase

-- Without ampersands and letters that are spelled out, a slug and a key have the same letters.
theorem letters_ofText_eq_map_dictionaryKey (language : String) {text : String}
    (h : ∀ c ∈ Text.decompose text.toList, c ≠ '&' ∧ Slug.spelling? c = none) :
    Slug.letters (Slug.ofText language text) = (dictionaryKey text).toList.map Char.toLower ∧
    (Slug.ofText language text = "" ↔ dictionaryKey text = "") := by
  have hl : Slug.letters (Slug.ofText language text) =
      (dictionaryKey text).toList.map Char.toLower := by
    have hp : ∀ c ∈ Text.withoutDiacritics text.toList, c ≠ '&' ∧ Slug.spelling? c = none :=
      fun c hc => h c (List.mem_filter.mp hc).left
    rw [Slug.letters_ofText, Slug.flatMap_chars_piece hp, dictionaryKey, String.toList_ofList,
      CamelCase.map_toLower_ofChars]
  refine ⟨hl, ?_⟩
  rw [← Slug.letters_ofText_eq_nil_iff, hl, List.map_eq_nil_iff, String.toList_eq_nil_iff]

-- Blanks in a row, a mark, and letters without an ASCII form.
theorem letters_ofText_eq_map_dictionaryKey_marked :
    let text := "L'Àlbum  (2ª) Ω-3"
    (∀ c ∈ Text.decompose text.toList, c ≠ '&' ∧ Slug.spelling? c = none) ∧
    Slug.letters (Slug.ofText "es" text) = (dictionaryKey text).toList.map Char.toLower ∧
    (Slug.ofText "es" text = "" ↔ dictionaryKey text = "") := by
  intro text
  have ha : (Text.decompose text.toList).all fun c => c ≠ '&' ∧ Slug.spelling? c = none := by
    decide +kernel
  have h : ∀ c ∈ Text.decompose text.toList, c ≠ '&' ∧ Slug.spelling? c = none := by
    simpa only [List.all_eq_true, decide_eq_true_eq] using ha
  exact ⟨h, letters_ofText_eq_map_dictionaryKey "es" h⟩

end MenuOutline
