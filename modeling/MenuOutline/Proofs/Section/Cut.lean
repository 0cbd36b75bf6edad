import MenuOutline.Proofs.Section.Partition

namespace MenuOutline.Section

variable {ls ls' : List SourceLine} {css dss : List (List Char)} {cs : List Char}
  {s : Section} {sections : List Section} {content content' content'' : String} {k n : Nat}

-- Whether the last line that is not blank is no delimiter.
def EndsInText (css : List (List Char)) : Prop :=
  ∀ cs ∈ (css.filter (!Text.isBlankText ·)).getLast?, ¬isDelimiter cs

instance : DecidablePred EndsInText :=
  fun css => inferInstanceAs (Decidable (∀ cs ∈ (css.filter _).getLast?, _))

theorem EndsInText.cons_of_blank (h : EndsInText css) (hb : Text.isBlankText cs) :
    EndsInText (cs :: css) := by
  rwa [EndsInText, List.filter_cons_of_neg (by simp [hb])]

theorem EndsInText.cons_of_text (h : EndsInText css) (hd : isDelimiter cs = false)
    (hb : Text.isBlankText cs = false) : EndsInText (cs :: css) := by
  rw [EndsInText, List.filter_cons_of_pos (by simp [hb]), List.getLast?_cons]
  intro cs' hc
  obtain rfl := Option.some.inj hc
  cases hl : (css.filter (!Text.isBlankText ·)).getLast?
  case none     => simp [hd]
  case some cs' => exact h cs' hl

-- What comes before other lines makes no difference if these are not all blank.
theorem endsInText_append_iff (css : List (List Char))
    (h : ∃ cs ∈ dss, Text.isBlankText cs = false) : EndsInText (css ++ dss) ↔ EndsInText dss := by
  have ⟨cs, hc, hb⟩ := h
  have hm : cs ∈ dss.filter (!Text.isBlankText ·) := List.mem_filter.mpr ⟨hc, by simp [hb]⟩
  rw [EndsInText, List.filter_append, List.getLast?_append_of_ne_nil _ (List.ne_nil_of_mem hm)]
  rfl

theorem EndsInText.exists_text (h : EndsInText css) (hn : ∃ cs ∈ css, Text.isBlankText cs = false) :
    ∃ cs ∈ css, isDelimiter cs = false ∧ Text.isBlankText cs = false := by
  have ⟨cs, hc, hb⟩ := hn
  have hm : cs ∈ css.filter (!Text.isBlankText ·) := List.mem_filter.mpr ⟨hc, by simp [hb]⟩
  have hl := List.getLast?_eq_some_getLast <| List.ne_nil_of_mem hm
  have ⟨hc', hb'⟩ := List.mem_filter.mp <| List.mem_of_getLast? hl
  exact ⟨_, hc', by simpa using h _ hl, by simpa using hb'⟩

theorem exists_text_of_ofLines_ne_nil (h : ofLines ls ≠ []) :
    ∃ cs ∈ ls.map (·.text), Text.isBlankText cs = false := by
  have ⟨l, hl, ht⟩ : ∃ l ∈ ls, hasText l := by simpa using mt ofLines_eq_nil_iff.mpr h
  exact ⟨l.text, List.mem_map_of_mem hl, (hasText_iff.mp ht).right⟩

theorem exists_take_consNonEmpty (hk : 0 < k) (h : k < (consNonEmpty s sections).length) :
    ∃ j < sections.length,
      consNonEmpty s (sections.take j) = (consNonEmpty s sections).take k := by
  unfold consNonEmpty at h ⊢
  split at h
  case isTrue  => exact ⟨k, h, by simp [*]⟩
  case isFalse =>
    obtain ⟨j, rfl⟩ := Nat.exists_eq_succ_of_ne_zero hk.ne'
    exact ⟨j, Nat.lt_of_succ_lt_succ h, by simp [*]⟩

-- Lines can be cut before the delimiter that ends one of their sections. Until all lines before the
-- first delimiter are known, the section that they make may be empty, and it is not counted.
theorem exists_cut_splitLines (h : k < (splitLines ls).2.length) :
    ∃ before l after, ls = before ++ l :: after ∧ isDelimiter l.text ∧
      splitLines before = ((splitLines ls).1, (splitLines ls).2.take k) ∧
      EndsInText (before.map (·.text)) := by
  induction ls using linesInduction generalizing k
  case nil => contradiction
  case delimiter l ls hd hi =>
    rw [splitLines_of_delimiter hd] at h ⊢
    cases k
    case zero   => exact ⟨[], l, ls, rfl, hd, rfl, nofun⟩
    case succ k =>
      have ⟨j, hj, ht⟩ := exists_take_consNonEmpty k.succ_pos h
      have ⟨before, d, after, hl, hd', hs, he⟩ := hi hj
      have hb : ofLines before = (ofLines ls).take (k + 1) := by
        rw [ofLines, hs]
        exact ht
      have hn : ofLines before ≠ [] := by
        have hl : ofLines ls ≠ [] := List.ne_nil_of_length_pos <| Nat.zero_lt_of_lt h
        simpa [hb] using hl
      refine ⟨l :: before, d, after, congrArg (l :: ·) hl, hd', ?_, ?_⟩
      · rw [splitLines_of_delimiter hd]
        exact congrArg _ hb
      · exact (endsInText_append_iff [l.text] <| exists_text_of_ofLines_ne_nil hn).mpr he
  case blank l ls hb hi =>
    rw [splitLines_of_blank hb] at h ⊢
    have ⟨before, d, after, hl, hd, hs, he⟩ := hi h
    refine ⟨l :: before, d, after, congrArg (l :: ·) hl, hd, ?_, he.cons_of_blank hb⟩
    rw [splitLines_of_blank hb, hs]
  case text l ls hd hb hi =>
    rw [splitLines_of_text hd hb] at h ⊢
    have ⟨before, d, after, hl, hd', hs, he⟩ := hi h
    refine ⟨l :: before, d, after, congrArg (l :: ·) hl, hd', ?_, he.cons_of_text hd hb⟩
    rw [splitLines_of_text hd hb, hs]

theorem exists_cut_ofLines (hk : 0 < k) (h : k < (ofLines ls).length) :
    ∃ before l after, ls = before ++ l :: after ∧ isDelimiter l.text ∧
      ofLines before = (ofLines ls).take k ∧ EndsInText (before.map (·.text)) := by
  have ⟨j, hj, ht⟩ := exists_take_consNonEmpty hk h
  have ⟨before, l, after, hl, hd, hs, he⟩ := exists_cut_splitLines hj
  refine ⟨before, l, after, hl, hd, ?_, he⟩
  rw [ofLines, hs]
  exact ht

-- Whether a text is another one up to the delimiter that ends its section `k`. It holds `k` sections
-- then, and there is no other delimiter between the last of these and its end.
structure IsCut (k : Nat) (content content' : String) : Prop where
  delimiter : ∃ rest, content.toList = content'.toList ++ rest ∧
    ∃ line ∈ (Text.lines rest).head?, isDelimiter line
  lineStart : Text.AtLineStart content'.toList
  sections  : (split content').length = k
  text      : EndsInText (Text.lines content'.toList)

theorem eq_numberFrom_of_append (h : numberFrom n css = ls ++ ls') :
    ls = numberFrom n (ls.map (·.text)) := by
  induction ls generalizing n css
  case nil => rfl
  case cons l ls hi =>
    cases css
    case nil         => contradiction
    case cons cs css =>
      have ⟨hl, hs⟩ := List.cons.inj h
      rw [List.map_cons, numberFrom, ← hi hs, ← hl]

theorem exists_isCut (hk : 0 < k) (h : k < (split content).length) :
    ∃ content', IsCut k content content' := by
  have ⟨before, l, after, hl, hd, hs, he⟩ := exists_cut_ofLines hk h
  have hb := eq_numberFrom_of_append hl
  have ht := congrArg (List.map (·.text)) hl
  rw [map_text_numberFrom, List.map_append] at ht
  have ⟨init, rest, hc, ha, hi, hr⟩ := Text.exists_of_lines_eq_append ht nofun
  refine ⟨String.ofList init, ⟨rest, ?_, l.text, ?_, hd⟩, ?_, ?_, ?_⟩
  · rw [hc, String.toList_ofList]
  · rw [hr]
    rfl
  · rwa [String.toList_ofList]
  · have hs' : split (String.ofList init) = ofLines before := by
      rw [hb, ← hi, split, String.toList_ofList]
      rfl
    rw [hs', hs, List.length_take, Nat.min_eq_left]
    exact Nat.le_of_lt h
  · rwa [String.toList_ofList, hi]

theorem split_eq_append {line rest : List Char} {later : List (List Char)}
    (hc : content.toList = content'.toList ++ rest) (ha : Text.AtLineStart content'.toList)
    (hr : Text.lines rest = line :: later) (hd : isDelimiter line) :
    ∃ n, split content = split content' ++ ofLines (numberFrom n later) := by
  have hs : split content = ofLines (numberFrom 1 (Text.lines content.toList)) := rfl
  rw [hs, hc, Text.lines_append ha, hr, numberFrom_append, numberFrom, ofLines_append_delimiter hd]
  exact ⟨_, rfl⟩

theorem isBlankText_eq_false_of_isDelimiter (hd : isDelimiter cs) :
    Text.isBlankText cs = false := by
  refine Bool.eq_false_iff.mpr fun hb => ?_
  simp [Reading.isDelimiter_eq_false_of_isBlankText hb] at hd

theorem not_endsInText_of_ofLines_eq_nil {line : List Char} (hd : isDelimiter line)
    (h : ofLines (numberFrom n css) = []) : ¬EndsInText (line :: css) := by
  intro he
  have ⟨cs, hc, ht⟩ := he.exists_text ⟨line, .head _, isBlankText_eq_false_of_isDelimiter hd⟩
  cases hc
  case head    => simp [hd] at ht
  case tail hc =>
    have hm : (numberFrom n css).map (·.text) = css := map_text_numberFrom
    have ⟨l, hl, hlc⟩ := List.mem_map.mp (hm ▸ hc)
    have hn := ofLines_eq_nil_iff.mp h l hl
    simp [hasText_iff.mpr (hlc ▸ ht)] at hn

namespace IsCut

theorem exists_split_eq_append (h : IsCut k content content') :
    ∃ others, split content = split content' ++ others := by
  have ⟨rest, hc, line, hl, hd⟩ := h.delimiter
  have ⟨later, hr⟩ := List.head?_eq_some_iff.mp hl
  have ⟨n, hs⟩ := split_eq_append hc h.lineStart hr hd
  exact ⟨_, hs⟩

-- A text that goes on past the delimiter has more sections, or it ends in delimiters.
theorem eq_nil_of_append (h : IsCut k content content') (h' : IsCut k content content'')
    (hc : content''.toList = content'.toList ++ cs) : cs = [] := by
  by_contra hn
  have ⟨rest, hr, line, hl, hd⟩ := h.delimiter
  have ⟨rest', hr', _⟩ := h'.delimiter
  -- Both texts are followed by the rest of the file, so the delimiter is the first line of `cs`.
  have hs : Text.AtLineStart cs := (hc ▸ h'.lineStart).of_append
  have hrest : rest = cs ++ rest' := by
    rw [hr', hc, List.append_assoc] at hr
    exact (List.append_cancel_left hr).symm
  rw [hrest, Option.mem_def, Text.head?_lines_append hs hn] at hl
  have ⟨later, hcs⟩ := List.head?_eq_some_iff.mp hl
  have ⟨n, hsplit⟩ := split_eq_append hc h.lineStart hcs hd
  have ho : ofLines (numberFrom n later) = [] := by
    have hl := congrArg List.length hsplit
    rw [List.length_append, h.sections, h'.sections] at hl
    exact List.eq_nil_of_length_eq_zero <| Nat.left_eq_add.mp hl
  have ht := h'.text
  have hb := isBlankText_eq_false_of_isDelimiter hd
  rw [hc, Text.lines_append h.lineStart, hcs, endsInText_append_iff _ ⟨line, .head _, hb⟩] at ht
  exact not_endsInText_of_ofLines_eq_nil hd ho ht

theorem unique (h : IsCut k content content') (h' : IsCut k content content'') :
    content' = content'' := by
  have ⟨rest, hr, _⟩ := h.delimiter
  have ⟨rest', hr', _⟩ := h'.delimiter
  have hp := hr.symm.trans hr'
  refine String.toList_inj.mp ?_
  cases List.append_eq_append_iff.mp hp
  case inl hp =>
    have ⟨cs, hc, _⟩ := hp
    rw [hc, h.eq_nil_of_append h' hc, List.append_nil]
  case inr hp =>
    have ⟨cs, hc, _⟩ := hp
    rw [hc, h'.eq_nil_of_append h hc, List.append_nil]

end IsCut

end MenuOutline.Section
