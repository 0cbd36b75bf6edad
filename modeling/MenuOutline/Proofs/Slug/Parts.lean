import MenuOutline.Proofs.Slug.Variable

namespace MenuOutline.Slug

-- Marks that a slug leaves out, and letters and digits without an ASCII form.
def isLeftOut (c : Char) : Bool :=
  silent.contains c || (0x80 ≤ c.toNat && Text.isAlphanumeric c && (spelling? c).isNone)

-- The characters that stand for one character in an address. Blanks set an ampersand apart.
def spelledOut (language : String) (c : Char) : List Char :=
  if c = '&' then ' ' :: ((ampersandWord language).toList ++ [' '])
  else (spelling? c).getD [c]

-- What stands between the characters that a slug may not hold.
def parts (cs : List Char) : List (List Char) :=
  (cs.splitOnP (!isSlugChar ·)).filter (· ≠ [])

variable {language : String} {c : Char} {w cs : List Char} {gap : Bool} {ps : List Piece}
  {ws : List (List Char)}

theorem parts_cons_of_not (h : ¬isSlugChar c) : parts (c :: cs) = parts cs := by
  simp [parts, List.splitOnP_cons_eq_if_modifyHead, h]

-- Characters of a slug in front of a text belong to its first part.
theorem parts_append (h : IsPart w) :
    parts (w ++ cs) = (w ++ cs.takeWhile isSlugChar) :: parts (cs.dropWhile isSlugChar) := by
  have hn : w ++ cs.takeWhile isSlugChar ≠ [] := by simp [h.ne_nil]
  have hw : (w ++ cs.takeWhile isSlugChar).splitOnP (!isSlugChar ·) =
      [w ++ cs.takeWhile isSlugChar] := by
    apply List.splitOnP_eq_singleton
    intro c hc
    cases List.mem_append.mp hc
    case inl hc => simpa using List.all_eq_true.mp h.chars c hc
    case inr hc => simpa using List.mem_takeWhile_imp hc
  conv_lhs => rw [← List.takeWhile_append_dropWhile (p := isSlugChar) (l := cs), ← List.append_assoc]
  have hd := List.head?_dropWhile_not isSlugChar cs
  cases he : cs.dropWhile isSlugChar
  case nil => simp [parts, hw, hn]
  case cons c rest =>
    have hc : ¬isSlugChar c := by simpa [he] using hd
    rw [parts_cons_of_not hc, parts, List.splitOnP_append_cons _ _ (by simpa using hc), hw]
    simp [parts, hn]

theorem not_isSlugChar_blank : ¬isSlugChar ' ' := by
  decide

-- A word that blanks set apart is a part of its own.
theorem parts_word (h : IsPart w) : parts (' ' :: (w ++ ' ' :: cs)) = w :: parts cs := by
  rw [parts_cons_of_not not_isSlugChar_blank, parts_append h]
  simp [not_isSlugChar_blank, parts_cons_of_not]

theorem intercalate_cons (sep w : List Char) :
    sep.intercalate (w :: ws) = w ++ ws.flatMap (sep ++ ·) := by
  induction ws generalizing w
  case nil => simp
  case cons v ws hi => simp [List.intercalate_cons_cons, hi]

-- Whether a piece does for a slug what the given characters do when the text is split.
def Piece.StandsFor : Piece → List Char → Prop
  | .nothing,    cs => cs = []
  | .gap,        cs => ∃ c, cs = [c] ∧ ¬isSlugChar c
  | .letters ls, cs => cs = ls ∧ IsPart ls
  | .word ls,    cs => cs = ' ' :: (ls ++ [' ']) ∧ IsPart ls

-- Once something is written, the parts follow with a hyphen in front of each. If there was no gap
-- since, then the text goes on with the part that is being written.
theorem write_true (h : ps.Forall₂ Piece.StandsFor ws) :
    write true true ps = (parts ws.flatten).flatMap (['-'] ++ ·) ∧
    write true false ps = ws.flatten.takeWhile isSlugChar ++
      (parts (ws.flatten.dropWhile isSlugChar)).flatMap (['-'] ++ ·) := by
  induction h
  case nil => exact ⟨rfl, rfl⟩
  case cons p w ps ws hp _ hi =>
    have ⟨hg, hn⟩ := hi
    cases p
    case nothing =>
      have hw : w = [] := hp
      simp only [write, hw, List.flatten_cons, List.nil_append]
      exact hi
    case gap =>
      obtain ⟨c, rfl, hc⟩ := hp
      simp [write, hg, hc, parts_cons_of_not]
    case letters ls =>
      obtain ⟨rfl, hw⟩ := hp
      have hc : ∀ c ∈ w, isSlugChar c := List.all_eq_true.mp hw.chars
      simp [write, hn, parts_append hw, List.takeWhile_append_of_pos hc,
        List.dropWhile_append_of_pos hc]
    case word ls =>
      obtain ⟨rfl, hw⟩ := hp
      simp [write, hg, parts_word hw, not_isSlugChar_blank]

theorem write_false (h : ps.Forall₂ Piece.StandsFor ws) :
    write false gap ps = ['-'].intercalate (parts ws.flatten) := by
  induction h generalizing gap
  case nil => rfl
  case cons p w ps ws hp hps hi =>
    have ⟨hg, hn⟩ := write_true hps
    cases p
    case nothing =>
      have hw : w = [] := hp
      simpa [write, hw] using hi
    case gap =>
      obtain ⟨c, rfl, hc⟩ := hp
      simpa [write, parts_cons_of_not hc] using hi
    case letters ls =>
      obtain ⟨rfl, hw⟩ := hp
      simp [write, hn, parts_append hw, intercalate_cons]
    case word ls =>
      obtain ⟨rfl, hw⟩ := hp
      simp [write, hg, parts_word hw, intercalate_cons]

-- What a character contributes to the text that is split.
def contribution (language : String) (c : Char) : List Char :=
  if isLeftOut c then [] else (spelledOut language c).map Char.toLower

theorem flatten_map_contribution :
    (cs.map (contribution language)).flatten =
      ((cs.filter (!isLeftOut ·)).flatMap (spelledOut language)).map Char.toLower := by
  induction cs
  case nil => rfl
  case cons c cs hi => cases hc : isLeftOut c <;> simp [contribution, hc, hi]

theorem isSlugChar_toLower_iff : isSlugChar c.toLower ↔ c.isAlphanum := by
  refine ⟨fun h => ?_, isSlugChar_toLower⟩
  by_cases hu : c.isUpper
  case pos => simp [Char.isAlphanum, Char.isAlpha, hu]
  case neg =>
    rw [Char.toLower_eq_of_not_isUpper hu] at h
    exact isAlphanum_of_isSlugChar h

theorem not_isAlphanum_of_spelling? (h : spelling? c = some cs) : ¬c.isAlphanum := by
  unfold spelling? at h
  split at h <;> first | contradiction | decide

theorem IsPart.map_toLower (h : IsPart cs) : cs.map Char.toLower = cs := by
  have hc : ∀ c ∈ cs, c.toLower = c := fun c hc =>
    Char.toLower_eq_of_not_isUpper <|
      (toNat_lt_of_isSlugChar <| List.all_eq_true.mp h.chars c hc).right
  exact (List.map_congr_left hc).trans (List.map_id' cs)

theorem standsFor_piece : (piece language c).StandsFor (contribution language c) := by
  unfold piece
  split
  case isTrue hs => simp only [contribution, isLeftOut, hs, Bool.true_or, if_true, Piece.StandsFor]
  case isFalse hs =>
    have hs : c ∉ silent := by simpa using hs
    split
    case isTrue ha =>
      have hn : spelling? c = none :=
        Option.eq_none_iff_forall_ne_some.mpr fun cs h => not_isAlphanum_of_spelling? h ha
      have hc : c.toNat < 0x80 := (toNat_of_isAlphanum ha).right
      have he : c ≠ '&' := by rintro rfl; contradiction
      refine ⟨?_, by simp, by simp [isSlugChar_toLower ha]⟩
      simp [contribution, isLeftOut, spelledOut, hs, hc, he, hn]
    case isFalse ha =>
      split
      case h_1 cs hc =>
        have he : c ≠ '&' := by rintro rfl; contradiction
        have hp := isPart_of_spelling? hc
        refine ⟨?_, hp⟩
        simp [contribution, isLeftOut, spelledOut, hs, hc, he, hp.map_toLower]
      case h_2 hn =>
        split
        case isTrue he =>
          have hp : IsPart (ampersandWord language).toList := isPart_ampersandWord
          refine ⟨?_, hp⟩
          simp [contribution, isLeftOut, spelledOut, he ▸ hs, he, hp.map_toLower]
        case isFalse he =>
          split
          case isTrue hl =>
            have ⟨hc, _⟩ : 0x80 ≤ c.toNat ∧ Text.Alphanumeric.ranges.contains c := by
              simpa [Text.isAlphanumeric, ha] using hl
            simp [contribution, isLeftOut, hn, hl, hc, Piece.StandsFor]
          case isFalse hl =>
            refine ⟨c.toLower, ?_, isSlugChar_toLower_iff.not.mpr ha⟩
            simp [contribution, isLeftOut, spelledOut, hs, he, hn, hl]

-- A slug is what is left when the text is split at all that an address may not hold, and its parts
-- are joined with hyphens.
theorem ofText_eq_intercalate_parts (language text : String) :
    let letters := (Text.decompose text.toList).filter (!Text.isDiacritic ·)
    let spelled := (letters.filter (!isLeftOut ·)).flatMap (spelledOut language)
    ofText language text = .ofList (['-'].intercalate (parts (spelled.map Char.toLower))) := by
  intro letters spelled
  have h : (letters.map (piece language)).Forall₂ Piece.StandsFor
      (letters.map (contribution language)) := by
    simp only [List.forall₂_map_left_iff, List.forall₂_map_right_iff, List.forall₂_same]
    exact fun _ _ => standsFor_piece
  rw [← flatten_map_contribution, ← write_false h, ofText, Text.withoutDiacritics]

-- The apostrophe leaves no gap, and the letter of another script none either.
example : ofText "ca" "Sal & pebre: l'Æsir, Ω" = "sal-i-pebre-laesir" := by
  decide +kernel

end MenuOutline.Slug
