import MenuOutline.Slug
import Mathlib

namespace MenuOutline.Slug

variable {language : String} {c : Char} {cs ds : List Char} {inPart hasGap : Bool}

theorem isSlugChar_toLower (h : c.isAlphanum) : isSlugChar c.toLower := by
  cases Bool.or_eq_true_iff.mp h
  case inl h => simp [isSlugChar, h]
  case inr h =>
    have hu : ¬c.isUpper := by
      simp only [Char.isDigit, Char.isUpper, Bool.and_eq_true, decide_eq_true_eq,
        UInt32.le_iff_toNat_le] at h ⊢
      exact fun hu => absurd (hu.left.trans h.right) (by decide)
    simp [isSlugChar, Char.toLower_eq_of_not_isUpper hu, h]

theorem isAlphanum_of_isSlugChar (h : isSlugChar c) : c.isAlphanum := by
  cases Bool.or_eq_true_iff.mp h <;> simp [Char.isAlphanum, Char.isAlpha, *]

theorem toNat_of_isAlphanum (h : c.isAlphanum) : 0x30 ≤ c.toNat ∧ c.toNat < 0x80 := by
  simp only [Char.isAlphanum, Char.isAlpha, Char.isUpper, Char.isLower, Char.isDigit,
    Bool.or_eq_true, Bool.and_eq_true, decide_eq_true_eq, UInt32.le_iff_toNat_le] at h
  have : c.toNat = c.val.toNat := rfl
  have : 'a'.val.toNat = 97 ∧ 'z'.val.toNat = 122 ∧ 'A'.val.toNat = 65 ∧ 'Z'.val.toNat = 90 ∧
    '0'.val.toNat = 48 ∧ '9'.val.toNat = 57 := by decide
  omega

theorem ne_hyphen_of_isSlugChar (h : isSlugChar c) : c ≠ '-' := by
  rintro rfl
  contradiction

-- The characters of a word that a slug may hold between two hyphens.
structure IsPart (cs : List Char) : Prop where
  ne_nil : cs ≠ []
  chars  : cs.all isSlugChar

theorem isPart_ampersandWord : IsPart (ampersandWord language).toList := by
  unfold ampersandWord
  split <;> exact ⟨by decide, by decide⟩

theorem isPart_of_spelling? (h : spelling? c = some cs) : IsPart cs := by
  unfold spelling? at h
  split at h <;> cases h <;> exact ⟨by decide, by decide⟩

-- What a character may contribute.
def Piece.Proper : Piece → Prop
  | .nothing | .gap => True
  | .letters cs | .word cs => IsPart cs

theorem proper_piece : (piece language c).Proper := by
  unfold piece
  split
  case isTrue => trivial
  case isFalse =>
    split
    case isTrue h => exact ⟨by simp, by simp [isSlugChar_toLower h]⟩
    case isFalse =>
      split
      case h_1 h => exact isPart_of_spelling? h
      case h_2 =>
        split
        case isTrue => exact isPart_ampersandWord
        case isFalse => split <;> trivial

theorem partsValid_append_of_chars (h : cs.all isSlugChar) :
    partsValid true (cs ++ ds) = partsValid true ds := by
  induction cs
  case nil => rfl
  case cons c cs hi =>
    have ⟨hc, hcs⟩ := Bool.and_eq_true_iff.mp h
    simp [partsValid, ne_hyphen_of_isSlugChar hc, hc, hi hcs]

theorem IsPart.partsValid_append (h : IsPart cs) :
    partsValid inPart (cs ++ ds) = partsValid true ds := by
  cases cs
  case nil => exact absurd rfl h.ne_nil
  case cons c cs =>
    have ⟨hc, hcs⟩ := Bool.and_eq_true_iff.mp h.chars
    simp [partsValid, ne_hyphen_of_isSlugChar hc, hc, partsValid_append_of_chars hcs]

-- Once something is written, what follows extends a valid slug to a valid slug.
theorem partsValid_write {ps : List Piece} (h : ∀ p ∈ ps, p.Proper) :
    partsValid true (write true hasGap ps) := by
  induction ps generalizing hasGap
  case nil => rfl
  case cons p ps hi =>
    have ⟨hp, hps⟩ := List.forall_mem_cons.mp h
    cases p
    case nothing => exact hi hps
    case gap => exact hi hps
    case letters cs =>
      cases hasGap <;> simp [write, partsValid, IsPart.partsValid_append hp, hi hps]
    case word cs => simp [write, partsValid, IsPart.partsValid_append hp, hi hps]

theorem write_eq_nil_or_partsValid {ps : List Piece} (h : ∀ p ∈ ps, p.Proper) :
    write false hasGap ps = [] ∨ partsValid false (write false hasGap ps) := by
  induction ps generalizing hasGap
  case nil => exact .inl rfl
  case cons p ps hi =>
    have ⟨hp, hps⟩ := List.forall_mem_cons.mp h
    cases p
    case nothing => exact hi hps
    case gap => exact hi hps
    case letters cs =>
      exact .inr <| by simp [write, IsPart.partsValid_append hp, partsValid_write hps]
    case word cs =>
      exact .inr <| by simp [write, IsPart.partsValid_append hp, partsValid_write hps]

theorem proper_of_mem_map_piece : ∀ p ∈ cs.map (piece language), p.Proper := by
  intro p hp
  have ⟨c, _, hc⟩ := List.mem_map.mp hp
  exact hc ▸ proper_piece

theorem ofText_eq_empty_or_isValid (language text : String) :
    ofText language text = "" ∨ isValid (ofText language text) := by
  simpa [ofText, isValid] using write_eq_nil_or_partsValid proper_of_mem_map_piece

end MenuOutline.Slug
