import MenuOutline.Proofs.Slug.Letters
import MenuOutline.Proofs.Slug.Sound
import MenuOutline.Proofs.Text.Equivalence

-- Slugs and case. Small letters are heard like their capitals, the capital sharp s apart: it is
-- left out, where the small one is spelled out. So the case of a text matters for its slug exactly
-- if the text has that letter.

namespace MenuOutline.Slug

open Text

-- What a piece is in another language.
def Piece.inLanguage (language : String) : Piece → Piece
  | .word _ => .word (ampersandWord language).toList
  | p       => p

-- From one code point to another there are only letters without an ASCII form, and those that are
-- composed have no other parts.
structure Foreign (first last : Nat) : Prop where
  le      : 0x250 ≤ first
  bound   : last < 0xAC00 ∨ 0xDFFF < first ∧ last < 0x110000
  letters : ∃ r ∈ Alphanumeric.ranges, r.1 ≤ first ∧ last ≤ r.2
  parts   : ∀ b ∈ Decomposition.blocks, ∀ e ∈ b.entries, b.first ≤ e.1 ∧ e.1 ≤ b.last →
    first ≤ e.1 ∧ e.1 ≤ last → ∀ n ∈ e.2, heard "" (.ofNat n) = .nothing

-- Checks this, and passes over the blocks that do not meet the code points.
def isForeign (first last : Nat) : Bool :=
  Nat.ble 0x250 first && (last.blt 0xAC00 || Nat.blt 0xDFFF first && last.blt 0x110000) &&
    (Alphanumeric.ranges.any fun r => last.ble r.2 && r.1.ble first) &&
    Decomposition.blocks.all fun b => b.last.blt first || last.blt b.first ||
      b.entries.all fun e => e.1.blt first || last.blt e.1 ||
        e.2.all fun n => heard "" (.ofNat n) = .nothing

-- Whether the capitals of a run are heard like their small letters.
def isHeardAlike (r : Lowercase.Run) : Bool :=
  (List.range ((r.last - r.first) / r.step + 1)).all fun k =>
    r.first + r.step * k == 0x1E9E ||
      sounds "" (.ofNat (r.small + r.step * k)) = sounds "" (.ofNat (r.first + r.step * k))

variable {language : String} {c : Char} {cs ds : List Char} {first last : Nat}
  {r : Lowercase.Run} {p : Piece}

theorem inLanguage_piece : (piece "" c).inLanguage language = piece language c := by
  by_cases h : c = '&'
  case pos => rw [h]; rfl
  case neg =>
    have hp : piece "" c = piece language c := piece_eq_of_ne_ampersand h
    rw [← hp]
    cases hn : spelling? c <;> simp only [piece, hn] <;> split_ifs <;> rfl

theorem inLanguage_heard : (heard "" c).inLanguage language = heard language c := by
  unfold heard
  split
  case isTrue  => rfl
  case isFalse => exact inLanguage_piece

theorem inLanguage_eq_nothing_iff : p.inLanguage language = .nothing ↔ p = .nothing := by
  cases p <;> simp [Piece.inLanguage]

theorem map_inLanguage_sounds :
    (sounds "" c).map (Piece.inLanguage language) = sounds language c := by
  have hh : heard language = Piece.inLanguage language ∘ heard "" :=
    funext fun _ => inLanguage_heard.symm
  rw [sounds, sounds, hh, ← List.map_map, List.filter_map (f := Piece.inLanguage language)]
  refine congrArg _ <| List.filter_congr fun p _ => ?_
  simp [inLanguage_eq_nothing_iff]

-- What is heard alike in one language is so in all of them.
theorem flatMap_sounds_congr (h : cs.flatMap (sounds "") = ds.flatMap (sounds "")) :
    cs.flatMap (sounds language) = ds.flatMap (sounds language) := by
  have hs (cs : List Char) :
      cs.flatMap (sounds language) = (cs.flatMap (sounds "")).map (Piece.inLanguage language) := by
    rw [List.map_flatMap]
    exact List.flatMap_congr fun c _ => map_inLanguage_sounds.symm
  rw [hs, hs, h]

theorem heard_eq_nothing (h : 0x250 ≤ c.toNat) (ha : isAlphanumeric c) :
    heard language c = .nothing := by
  simp [heard, piece_of_le h, ha]

theorem foreign_of_isForeign (h : isForeign first last) : Foreign first last := by
  simp only [isForeign, Bool.and_eq_true, Bool.or_eq_true, Nat.ble_eq, Nat.blt_eq,
    List.any_eq_true, List.all_eq_true, decide_eq_true_eq] at h
  obtain ⟨⟨⟨hn, hs⟩, r, hr, hl, hf⟩, hb⟩ := h
  refine ⟨hn, hs, ⟨r, hr, hf, hl⟩, fun b hm e he hbe hfe => ?_⟩
  exact ((hb b hm).resolve_left (by omega) e he).resolve_left (by omega)

theorem Foreign.sounds_eq_nil (h : Foreign first last) (hf : first ≤ c.toNat)
    (hl : c.toNat ≤ last) : sounds "" c = [] := by
  have hn := h.le
  have hs := h.bound
  refine List.filter_eq_nil_iff.mpr fun p hp => ?_
  obtain ⟨d, hd, hp⟩ := List.mem_map.mp hp
  suffices heard "" d = .nothing by simp [← hp, this]
  obtain hc | ⟨codes, hc, hh | ⟨b, hb, hbc, he⟩⟩ := Decomposition.parts_eq_or c
  case inl =>
    obtain rfl := List.mem_singleton.mp (hc ▸ hd)
    obtain ⟨r, hr, hrf, hrl⟩ := h.letters
    have ha : Alphanumeric.ranges.contains d :=
      Ranges.contains_iff.mpr ⟨r, hr, hrf.trans hf, hl.trans hrl⟩
    exact heard_eq_nothing (by omega) (by simp [isAlphanumeric, ha]; omega)
  case inr.inl =>
    have := (Decomposition.hangul?_eq_some hh).left
    omega
  case inr.inr =>
    obtain ⟨k, hk, hd⟩ := List.mem_map.mp (hc ▸ hd)
    exact hd ▸ h.parts b hb _ he hbc ⟨hf, hl⟩ k hk

-- A run is heard alike, or all its letters are left out.
theorem isForeign_or_isHeardAlike : Lowercase.runs.all fun r =>
    isForeign r.first r.last && isForeign r.small (r.small + (r.last - r.first)) ||
      isHeardAlike r := by
  decide +kernel

theorem sounds_small (h : r ∈ Lowercase.runs) (hr : r.contains c.toNat) (hc : c ≠ 'ẞ') :
    sounds "" (.ofNat (r.small + (c.toNat - r.first))) = sounds "" c := by
  simp only [Lowercase.Run.contains, Bool.and_eq_true, decide_eq_true_eq, beq_iff_eq] at hr
  obtain ⟨⟨hf, hl⟩, hm⟩ := hr
  have hr := List.all_eq_true.mp isForeign_or_isHeardAlike r h
  simp only [Bool.or_eq_true, Bool.and_eq_true] at hr
  cases hr
  case inl hr =>
    have hs := foreign_of_isForeign hr.right
    have hv := hs.bound
    have he : (Char.ofNat (r.small + (c.toNat - r.first))).toNat =
        r.small + (c.toNat - r.first) :=
      Decomposition.toNat_ofNat (by omega)
    rw [(foreign_of_isForeign hr.left).sounds_eq_nil hf hl, hs.sounds_eq_nil] <;> omega
  case inr hr =>
    have hk : r.step * ((c.toNat - r.first) / r.step) = c.toNat - r.first := by
      rw [Nat.mul_div_cancel' (Nat.dvd_of_mod_eq_zero hm)]
    have hn : (c.toNat - r.first) / r.step < (r.last - r.first) / r.step + 1 :=
      Nat.lt_succ_of_le <| Nat.div_le_div_right (by omega)
    have ha := List.all_eq_true.mp hr _ (List.mem_range.mpr hn)
    have he : r.first + (c.toNat - r.first) = c.toNat := by omega
    have hs : c.toNat ≠ 0x1E9E := fun hs => hc <| Char.toNat_inj.mp hs
    simpa [hk, he, hs] using ha

theorem sounds_toLower_of_lt : (List.range 0x80).all fun n =>
    sounds "" (Char.ofNat n).toLower = sounds "" (.ofNat n) := by
  decide +kernel

theorem sounds_sharp :
    sounds language 'ẞ' = [] ∧ sounds language 'ß' = [.letters ['s', 's']] := by
  have ⟨hc, hs⟩ : sounds "" 'ẞ' = [] ∧ sounds "" 'ß' = [.letters ['s', 's']] := by
    decide +kernel
  rw [← map_inLanguage_sounds, hc, ← map_inLanguage_sounds, hs]
  exact ⟨rfl, rfl⟩

theorem sounds_dotted : (Lowercase.ofChar 'İ').flatMap (sounds "") = sounds "" 'İ' := by
  decide +kernel

theorem flatMap_sounds_ofChar (hc : c ≠ 'ẞ') :
    (Lowercase.ofChar c).flatMap (sounds "") = sounds "" c := by
  by_cases hi : c = 'İ'
  case pos => rw [hi, sounds_dotted]
  case neg =>
    unfold Lowercase.ofChar
    split_ifs with hn
    case pos =>
      have ha := List.all_eq_true.mp sounds_toLower_of_lt _ (List.mem_range.mpr hn)
      simpa using ha
    case neg =>
      split
      case h_1 r hr =>
        rw [List.flatMap_singleton, sounds_small (List.mem_of_find?_eq_some hr) _ hc]
        simpa using List.find?_some hr
      case h_2 => exact List.flatMap_singleton _ _

theorem sounds_sigmas : ['Σ', 'ς', 'σ'].all fun c => sounds "" c = [] := by
  decide +kernel

-- All sigmas are left out, so that it does not matter which of them ends a word.
theorem flatMap_sounds_continueWord (inWord : Bool) (cs : List Char) :
    (Lowercase.continueWord inWord cs).flatMap (sounds "") =
      (cs.flatMap Lowercase.ofChar).flatMap (sounds "") := by
  induction cs generalizing inWord
  case nil => rfl
  case cons c cs hi =>
    simp only [Lowercase.continueWord, List.flatMap_append, hi, List.flatMap_cons]
    congr 1
    have hs : sounds "" 'Σ' = [] ∧ sounds "" 'ς' = [] ∧ sounds "" 'σ' = [] := by
      simpa using sounds_sigmas
    split
    case isTrue hc =>
      rw [hc, flatMap_sounds_ofChar (by decide), hs.left]
      split <;> simp [hs]
    case isFalse => rfl

theorem letters_ofText_eq_flatMap_sounds : letters (ofText language (.ofList cs)) =
    (cs.flatMap (sounds language)).flatMap Piece.chars := by
  have hp : ∀ p ∈ cs.flatMap (sounds language), p.Proper := by
    intro p hp
    have ⟨c, _, hp⟩ := List.mem_flatMap.mp hp
    have ⟨d, _, hd⟩ := List.mem_map.mp (List.mem_filter.mp hp).left
    rw [← hd, heard]
    split
    case isTrue  => trivial
    case isFalse => exact proper_piece
  rw [ofText_eq_write_sounds, letters, String.toList_ofList, String.toList_ofList, filter_write hp]

theorem letters_ofText_lowercase : letters (ofText language (.ofList (Text.lowercase cs))) =
    ((cs.flatMap Lowercase.ofChar).flatMap (sounds language)).flatMap Piece.chars := by
  rw [letters_ofText_eq_flatMap_sounds, Text.lowercase,
    flatMap_sounds_congr (flatMap_sounds_continueWord false cs)]

-- How many letters of a slug come from some characters.
def spelledLength (language : String) (cs : List Char) : Nat :=
  ((cs.flatMap (sounds language)).flatMap Piece.chars).length

theorem spelledLength_flatMap (f : Char → List Char) (cs : List Char) :
    spelledLength language (cs.flatMap f) = (cs.map fun c => spelledLength language (f c)).sum := by
  simp only [spelledLength, List.flatMap_assoc, List.length_flatMap]

theorem spelledLength_lt (h : 'ẞ' ∈ cs) :
    spelledLength language cs < spelledLength language (cs.flatMap Lowercase.ofChar) := by
  have hs : spelledLength language ['ẞ'] < spelledLength language (Lowercase.ofChar 'ẞ') := by
    have ho : Lowercase.ofChar 'ẞ' = ['ß'] := by decide +kernel
    simp [spelledLength, ho, sounds_sharp, Piece.chars]
  conv_lhs => rw [← List.flatMap_singleton' cs]
  rw [spelledLength_flatMap, spelledLength_flatMap]
  refine List.sum_lt_sum _ _ (fun c _ => ?_) ⟨'ẞ', h, hs⟩
  by_cases hc : c = 'ẞ'
  case pos => exact hc ▸ hs.le
  case neg =>
    have he : (Lowercase.ofChar c).flatMap (sounds "") = [c].flatMap (sounds "") :=
      (flatMap_sounds_ofChar hc).trans (List.flatMap_singleton _ _).symm
    exact (congrArg (List.length ∘ List.flatMap Piece.chars) (flatMap_sounds_congr he)).ge

-- Case is without effect on a slug, unless there is a capital sharp s in the text.
theorem ofText_lowercase_eq_iff (language text : String) :
    ofText language (.ofList (Text.lowercase text.toList)) = ofText language text ↔
      'ẞ' ∉ text.toList := by
  constructor
  case mp =>
    intro h hc
    have hl := congrArg (List.length ∘ letters) h
    simp only [Function.comp, letters_ofText_lowercase] at hl
    rw [← String.ofList_toList (s := text), letters_ofText_eq_flatMap_sounds,
      String.toList_ofList] at hl
    exact absurd hl.symm (spelledLength_lt hc).ne
  case mpr =>
    intro hc
    have hs : (text.toList.flatMap Lowercase.ofChar).flatMap (sounds "") =
        text.toList.flatMap (sounds "") := by
      rw [List.flatMap_assoc]
      exact List.flatMap_congr fun c h => flatMap_sounds_ofChar (ne_of_mem_of_not_mem h hc)
    have hw := (flatMap_sounds_continueWord false text.toList).trans hs
    rw [ofText_eq_write_sounds, ofText_eq_write_sounds, String.toList_ofList, Text.lowercase,
      flatMap_sounds_congr hw]

example : ofText "de" "STRAẞE" = "strae" ∧ ofText "de" "straße" = "strasse" := by
  decide +kernel

end MenuOutline.Slug
