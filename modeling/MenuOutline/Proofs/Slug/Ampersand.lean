import MenuOutline.Proofs.Slug.Valid

namespace MenuOutline.Slug

variable {language language' text : String} {c : Char} {cs w : List Char} {gap : Bool}
  {ps : List Piece}

theorem piece_ampersand : piece language '&' = .word (ampersandWord language).toList :=
  rfl

theorem piece_eq_of_ne_ampersand (h : c ≠ '&') : piece language c = piece language' c := by
  simp only [piece, if_neg h]

-- Text without an ampersand has one slug for all languages.
theorem ofText_eq_of_ampersand_notMem (h : '&' ∉ Text.withoutDiacritics text.toList) :
    ofText language text = ofText language' text := by
  have hp : (Text.withoutDiacritics text.toList).map (piece language) =
      (Text.withoutDiacritics text.toList).map (piece language') :=
    List.map_congr_left fun c hc => piece_eq_of_ne_ampersand fun he => h <| he ▸ hc
  rw [ofText, ofText, hp]

-- Whether a piece writes something.
def Piece.isMute : Piece → Bool
  | .nothing | .gap      => true
  | .letters _ | .word _ => false

theorem isMute_piece : (piece language c).isMute = (piece language' c).isMute := by
  by_cases h : c = '&'
  case pos => rw [h]; rfl
  case neg => rw [piece_eq_of_ne_ampersand h]

-- Mute pieces alone make an empty slug.
theorem write_eq_nil_iff (h : ∀ p ∈ ps, p.Proper) (started gap : Bool) :
    write started gap ps = [] ↔ ps.all Piece.isMute := by
  induction ps generalizing gap
  case nil => exact iff_of_true rfl rfl
  case cons p ps hi =>
    have ⟨hp, hps⟩ := List.forall_mem_cons.mp h
    cases p
    case nothing    => simpa [write, Piece.isMute] using hi hps _
    case gap        => simpa [write, Piece.isMute] using hi hps _
    case letters cs =>
      have hn : cs ≠ [] := IsPart.ne_nil hp
      simp [write, Piece.isMute, hn]
    case word cs    =>
      have hn : cs ≠ [] := IsPart.ne_nil hp
      simp [write, Piece.isMute, hn]

theorem ofText_eq_empty_iff : ofText language text = "" ↔ ofText language' text = "" := by
  have h (language : String) : ofText language text = "" ↔
      ((Text.withoutDiacritics text.toList).map (piece language)).all Piece.isMute := by
    rw [← write_eq_nil_iff proper_of_mem_map_piece false false]
    simp [ofText]
  have hs : Piece.isMute ∘ piece language = Piece.isMute ∘ piece language' :=
    funext fun _ => isMute_piece
  rw [h, h, List.all_map, List.all_map, hs]

-- After a word there is nothing or a hyphen.
theorem write_after_word (ps : List Piece) :
    write true true ps = [] ∨ '-' ∈ write true true ps := by
  induction ps
  case nil => exact .inl rfl
  case cons p ps hi =>
    cases p
    case nothing    => exact hi
    case gap        => exact hi
    case letters cs => exact .inr <| by simp [write]
    case word cs    => exact .inr <| by simp [write]

theorem hyphen_mem_write (h : .word w ∈ ps) : '-' ∈ write true gap ps := by
  induction ps generalizing gap
  case nil => contradiction
  case cons p ps hi =>
    cases List.mem_cons.mp h
    case inl hp => simp [← hp, write]
    case inr hp => cases p <;> simp [write, hi hp]

-- A word stands alone or next to a hyphen.
theorem exists_eq_or_hyphen_mem_write (gap : Bool) (h : .word w ∈ ps) :
    (∃ w', .word w' ∈ ps ∧ write false gap ps = w') ∨ '-' ∈ write false gap ps := by
  induction ps generalizing gap
  case nil => contradiction
  case cons p ps hi =>
    cases p
    case word cs =>
      cases write_after_word ps
      case inl hn => exact .inl ⟨cs, .head _, by simp [write, hn]⟩
      case inr hn => exact .inr <| by simp [write, hn]
    case letters cs =>
      have hp : .word w ∈ ps := by simpa using h
      exact .inr <| by simp [write, hyphen_mem_write hp]
    -- What is left out or is a gap writes nothing yet.
    all_goals
      have hp : .word w ∈ ps := by simpa using h
      obtain ⟨w', hw, he⟩ | hh := hi _ hp
      · exact .inl ⟨w', .tail _ hw, he⟩
      · exact .inr hh

theorem eq_of_piece_eq_word (h : piece language c = .word w) :
    w = (ampersandWord language).toList := by
  unfold piece at h
  split at h <;> try contradiction
  split at h <;> try contradiction
  split at h <;> try contradiction
  split at h
  case isTrue => exact (Piece.word.inj h).symm
  case isFalse => split at h <;> contradiction

theorem ofText_eq_ampersandWord_or_hyphen_mem (language : String)
    (h : '&' ∈ Text.withoutDiacritics text.toList) :
    ofText language text = ampersandWord language ∨ '-' ∈ (ofText language text).toList := by
  have hw : .word (ampersandWord language).toList ∈
      (Text.withoutDiacritics text.toList).map (piece language) :=
    List.mem_map.mpr ⟨'&', h, piece_ampersand⟩
  cases exists_eq_or_hyphen_mem_write false hw
  case inl he =>
    have ⟨w, hw, he⟩ := he
    have ⟨c, _, hc⟩ := List.mem_map.mp hw
    exact .inl <| by rw [ofText, he, eq_of_piece_eq_word hc, String.ofList_toList]
  case inr hh => exact .inr <| by simpa [ofText] using hh

theorem hyphen_notMem_of_isHomeAlias {slug : String} (h : isHomeAlias slug) :
    '-' ∉ slug.toList := by
  have ha : ∀ a ∈ homeAliases, '-' ∉ a.toList := by decide
  exact ha slug (List.contains_iff_mem.mp h)

theorem isHomeAlias_ampersandWord : isHomeAlias (ampersandWord language) = false := by
  unfold ampersandWord
  split <;> decide

theorem isHomeAlias_ofText_of_ampersand_mem (language : String)
    (h : '&' ∈ Text.withoutDiacritics text.toList) :
    isHomeAlias (ofText language text) = false := by
  cases ofText_eq_ampersandWord_or_hyphen_mem language h
  case inl he => rw [he, isHomeAlias_ampersandWord]
  case inr hh => exact Bool.eq_false_iff.mpr fun ha => hyphen_notMem_of_isHomeAlias ha hh

-- No way to read out an ampersand makes a page the home page.
theorem isHomeAlias_ofText :
    isHomeAlias (ofText language text) = isHomeAlias (ofText language' text) := by
  by_cases h : '&' ∈ Text.withoutDiacritics text.toList
  case pos =>
    rw [isHomeAlias_ofText_of_ampersand_mem language h,
      isHomeAlias_ofText_of_ampersand_mem language' h]
  case neg => rw [ofText_eq_of_ampersand_notMem h]

end MenuOutline.Slug
