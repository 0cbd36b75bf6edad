import MenuOutline.Proofs.Text.Lines

namespace MenuOutline.Text

variable {β : Type} {g : List Char → β} {l bs e rest cs ds : List Char} {k : Nat}

-- Blanks that can stand on a line.
structure IsPadding (bs : List Char) : Prop where
  blank   : bs.all isBlank
  newline : '\n' ∉ bs

instance : DecidablePred IsPadding :=
  fun bs => decidable_of_iff (bs.all isBlank ∧ '\n' ∉ bs)
    ⟨fun ⟨b, n⟩ => ⟨b, n⟩, fun ⟨b, n⟩ => ⟨b, n⟩⟩

-- What ends a line.
inductive IsEnding : List Char → Prop
  | newline : IsEnding ['\n']
  | returned : IsEnding ['\r', '\n']

-- The text with a carriage return before the line feed at the end of every line.
def withReturns : List Char → List Char
  | [] => []
  | '\r' :: '\n' :: cs => '\r' :: '\n' :: withReturns cs
  | '\n' :: cs => '\r' :: '\n' :: withReturns cs
  | c :: cs => c :: withReturns cs

-- A text and the same one with blanks at the ends of its lines. A line may end in another way too.
inductive Padded : List Char → List Char → Prop
  | last {l bs : List Char} : '\n' ∉ l → IsPadding bs → Padded l (l ++ bs)
  | line {l bs e e' cs ds : List Char} : '\n' ∉ l → IsPadding bs → IsEnding e → IsEnding e' →
    Padded cs ds → Padded (l ++ e ++ cs) (l ++ bs ++ e' ++ ds)

-- A text and the same one with a blank line between its lines, or before or after them, and the
-- number of lines before it. Behind a line that is not ended, the blank line needs an ending in
-- front of it, and at the end of the text it need not have one of its own.
inductive BlankInserted : Nat → List Char → List Char → Prop
  | before {bs e cs ds : List Char} : AtLineStart cs → IsPadding bs → IsEnding e →
    BlankInserted (lines cs).length (cs ++ ds) (cs ++ bs ++ e ++ ds)
  | last {opening bs closing cs : List Char} :
    (if AtLineStart cs then opening = [] else IsEnding opening) → IsPadding bs →
    (closing = [] ∨ IsEnding closing) →
    BlankInserted (lines cs).length cs (cs ++ opening ++ bs ++ closing)

theorem head?_withReturns (h : cs.head? ≠ some '\n') : (withReturns cs).head? ≠ some '\n' := by
  unfold withReturns
  split <;> simp_all

theorem lines_withReturns (cs : List Char) : lines (withReturns cs) = lines cs := by
  fun_induction withReturns cs
  case case1 => rfl
  case case2 cs hi => rw [lines_return, lines_return, hi]
  case case3 cs hi => rw [lines_return, lines_newline, hi]
  case case4 c cs hr hn hi =>
    have hn : c ≠ '\n' := fun hc => hn hc
    have hh (hc : c = '\r') : cs.head? ≠ some '\n' := fun h =>
      have ⟨cs', hcs⟩ := List.head?_eq_some_iff.mp h
      hr cs' hc hcs
    have he : withReturns cs = [] ↔ cs = [] := by
      rw [← lines_eq_nil_iff, hi, lines_eq_nil_iff]
    cases hl : lines cs
    case nil =>
      have hcs := lines_eq_nil_iff.mp hl
      rw [he.mpr hcs, hcs]
    case cons l ls =>
      rw [lines_cons hn hh hl, lines_cons hn (fun hc => head?_withReturns (hh hc)) (hi.trans hl)]

theorem map_lines_append_ending (hg : ∀ cs bs, bs.all isBlank → g (cs ++ bs) = g cs)
    (hn : '\n' ∉ l) (he : IsEnding e) (rest : List Char) :
    (lines (l ++ e ++ rest)).map g = g l :: (lines rest).map g := by
  cases he
  case newline => simpa using map_lines_append_newline hg hn rest
  case returned =>
    have hr : '\n' ∉ l ++ ['\r'] := by simp [hn]
    have h := map_lines_append_newline hg hr rest
    rw [hg l _ rfl] at h
    simpa using h

theorem apply_of_isPadding (hg : ∀ cs bs, bs.all isBlank → g (cs ++ bs) = g cs)
    (hb : IsPadding bs) : g bs = g [] :=
  hg [] bs hb.blank

-- Blanks make no line or one, whether it is ended or not.
theorem eq_of_mem_map_lines_padding (hg : ∀ cs bs, bs.all isBlank → g (cs ++ bs) = g cs)
    (hb : IsPadding bs) (he : e = [] ∨ IsEnding e) : ∀ b ∈ (lines (bs ++ e)).map g, b = g [] := by
  cases he
  case inr he =>
    have h := map_lines_append_ending hg hb.newline he []
    rw [List.append_nil] at h
    simpa [h] using apply_of_isPadding hg hb
  case inl he =>
    rw [he, List.append_nil]
    by_cases hn : bs = []
    case pos => simp [hn]
    case neg =>
      rw [lines_of_newline_notMem hb.newline hn]
      simpa using apply_of_isPadding hg hb

-- What does not depend on blanks at the ends of lines is the same for all lines, with more of what
-- it is for a blank line at the end.
theorem Padded.exists_map_lines (hg : ∀ cs bs, bs.all isBlank → g (cs ++ bs) = g cs)
    (h : Padded cs ds) :
    ∃ extra, (lines ds).map g = (lines cs).map g ++ extra ∧ ∀ b ∈ extra, b = g [] := by
  induction h
  case last l bs hn hb =>
    by_cases he : l = []
    case pos =>
      refine ⟨(lines bs).map g, by simp [he], ?_⟩
      simpa using eq_of_mem_map_lines_padding hg hb (.inl rfl)
    case neg =>
      have hn' : '\n' ∉ l ++ bs := by simp [hn, hb.newline]
      refine ⟨[], ?_, nofun⟩
      rw [lines_of_newline_notMem hn he, lines_of_newline_notMem hn' (by simp [he])]
      simp [hg l bs hb.blank]
  case line l bs e e' cs ds hn hb he he' _ hi =>
    have ⟨extra, hx, hr⟩ := hi
    have hn' : '\n' ∉ l ++ bs := by simp [hn, hb.newline]
    refine ⟨extra, ?_, hr⟩
    rw [map_lines_append_ending hg hn' he', map_lines_append_ending hg hn he, hg l bs hb.blank, hx]
    rfl

theorem map_lines_append_opening (hg : ∀ cs bs, bs.all isBlank → g (cs ++ bs) = g cs)
    (ho : if AtLineStart cs then e = [] else IsEnding e) (rest : List Char) :
    (lines (cs ++ e ++ rest)).map g = (lines cs).map g ++ (lines rest).map g := by
  split at ho
  case isTrue hs => rw [ho, List.append_nil, lines_append hs, List.map_append]
  case isFalse hs =>
    have ⟨init, last, hc, hb, hl, hn⟩ := exists_last_line hs
    have hr := map_lines_append_ending hg hl ho rest
    rw [hc, List.append_assoc, List.append_assoc, lines_append hb, lines_append hb,
      ← List.append_assoc last, List.map_append, List.map_append, hr,
      lines_of_newline_notMem hl hn]
    simp

-- The blank line stands behind the lines before it, unless it is at the end and is no line at all.
theorem BlankInserted.exists_map_lines (hg : ∀ cs bs, bs.all isBlank → g (cs ++ bs) = g cs)
    (h : BlankInserted k cs ds) : ∃ before extra after, (lines cs).map g = before ++ after ∧
      (lines ds).map g = before ++ extra ++ after ∧ before.length = k ∧ (∀ b ∈ extra, b = g []) ∧
      (extra.length = 1 ∨ after = []) := by
  cases h
  case before bs e cs ds hs hb he =>
    refine ⟨(lines cs).map g, [g bs], (lines ds).map g, ?_, ?_, List.length_map _, ?_, .inl rfl⟩
    · rw [lines_append hs, List.map_append]
    · rw [List.append_assoc, List.append_assoc, lines_append hs, List.map_append,
        ← List.append_assoc bs, map_lines_append_ending hg hb.newline he]
      simp
    · simpa using apply_of_isPadding hg hb
  case last opening bs closing hb hc ho =>
    refine ⟨(lines cs).map g, (lines (bs ++ closing)).map g, [], ?_, ?_, List.length_map _,
      eq_of_mem_map_lines_padding hg hb hc, .inr rfl⟩
    · rw [List.append_nil]
    · rw [List.append_assoc, map_lines_append_opening hg ho, List.append_nil]

end MenuOutline.Text
