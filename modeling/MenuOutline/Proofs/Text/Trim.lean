import Mathlib.Data.List.DropRight
import MenuOutline.Text.Blank

namespace MenuOutline.Text

variable {bs cs : List Char}

-- There are no blanks at either end.
structure Trimmed (cs : List Char) : Prop where
  head : cs.head?.all (!isBlank ·)
  last : cs.getLast?.all (!isBlank ·)

instance : Decidable (Trimmed cs) :=
  decidable_of_iff (cs.head?.all (!isBlank ·) ∧ cs.getLast?.all (!isBlank ·))
    ⟨fun ⟨h, l⟩ => ⟨h, l⟩, fun ⟨h, l⟩ => ⟨h, l⟩⟩

theorem all_getLast?_append {p : Char → Bool} (hb : bs.getLast?.all p) (hc : cs.getLast?.all p) :
    (bs ++ cs).getLast?.all p := by
  rw [List.getLast?_append]
  cases hg : cs.getLast? <;> simp_all

theorem dropWhile_isBlank_eq_self (h : cs.head?.all (!isBlank ·)) : cs.dropWhile isBlank = cs := by
  cases cs
  case nil => rfl
  case cons c cs =>
    have hc : isBlank c = false := by simpa using h
    simp [List.dropWhile, hc]

theorem dropWhile_isBlank_append (hb : bs.all isBlank) (hc : cs.head?.all (!isBlank ·)) :
    (bs ++ cs).dropWhile isBlank = cs := by
  induction bs
  case nil => exact dropWhile_isBlank_eq_self hc
  case cons b bs hi =>
    have ⟨hb, hbs⟩ := Bool.and_eq_true_iff.mp hb
    rw [List.cons_append, List.dropWhile_cons_of_pos hb, hi hbs]

theorem trimEnd_isPrefix (cs : List Char) : trimEnd cs <+: cs :=
  List.rdropWhile_prefix isBlank cs

theorem trim_isInfix (cs : List Char) : trim cs <:+: cs :=
  (trimEnd_isPrefix _).isInfix.trans (List.dropWhile_suffix isBlank).isInfix

theorem trim_sublist (cs : List Char) : (trim cs).Sublist cs :=
  (trim_isInfix cs).sublist

theorem trimmed_trim (cs : List Char) : Trimmed (trim cs) where
  head := by
    have h := List.head?_dropWhile_not isBlank cs
    have ⟨bs, hs⟩ := trimEnd_isPrefix (trimStart cs)
    rw [← trimStart, ← hs] at h
    change (trimEnd (trimStart cs)).head?.all _
    cases hc : trimEnd (trimStart cs) <;> simp_all
  last := by
    by_cases hn : trim cs = []
    case pos => rw [hn]; rfl
    case neg =>
      have h := List.rdropWhile_last_not isBlank (trimStart cs) hn
      rw [List.getLast?_eq_some_getLast hn]
      exact (Bool.not_eq_true' _).mpr (Bool.eq_false_iff.mpr h)

theorem trimEnd_eq_self (h : cs.getLast?.all (!isBlank ·)) : trimEnd cs = cs := by
  have hr := dropWhile_isBlank_eq_self (List.head?_reverse ▸ h)
  rw [trimEnd, hr, List.reverse_reverse]

-- Blanks in front do not matter.
theorem trim_append (hb : bs.all isBlank) (hc : Trimmed cs) : trim (bs ++ cs) = cs := by
  rw [trim, trimStart, dropWhile_isBlank_append hb hc.head, trimEnd_eq_self hc.last]

theorem trim_blanks_append (hb : bs.all isBlank) (cs : List Char) : trim (bs ++ cs) = trim cs := by
  rw [trim, trim, trimStart, trimStart, List.dropWhile_append_of_pos (List.all_eq_true.mp hb)]

theorem trim_eq_self (h : Trimmed cs) : trim cs = cs :=
  trim_append List.all_nil h

theorem trim_trim (cs : List Char) : trim (trim cs) = trim cs :=
  trim_eq_self (trimmed_trim cs)

theorem dropWhile_isBlank_eq_nil (h : cs.all isBlank) : cs.dropWhile isBlank = [] := by
  have hd : (cs ++ []).dropWhile isBlank = [] := dropWhile_isBlank_append h rfl
  rwa [List.append_nil] at hd

theorem trim_eq_nil_of_isBlankText (h : isBlankText cs) : trim cs = [] := by
  rw [trim, trimStart, dropWhile_isBlank_eq_nil h]
  rfl

theorem isBlankText_of_trim_eq_nil (h : trim cs = []) : isBlankText cs := by
  have hb : ∀ c ∈ trimStart cs, isBlank c := List.rdropWhile_eq_nil_iff.mp h
  cases hs : trimStart cs
  case nil => simpa [isBlankText] using List.dropWhile_eq_nil_iff.mp hs
  case cons c cs' =>
    have hc := List.head?_dropWhile_not isBlank cs
    rw [show cs.dropWhile isBlank = c :: cs' from hs] at hc
    simp [hb c (hs ▸ .head _)] at hc

theorem trim_ne_nil_iff : trim cs ≠ [] ↔ isBlankText cs = false := by
  rw [← Bool.not_eq_true]
  exact not_congr ⟨isBlankText_of_trim_eq_nil, trim_eq_nil_of_isBlankText⟩

-- Blanks at the end do not matter.
theorem trim_append_blanks (cs : List Char) (hb : bs.all isBlank) : trim (cs ++ bs) = trim cs := by
  have hr : bs.reverse.all isBlank := by rwa [List.all_reverse]
  rw [trim, trim, trimStart, trimStart, List.dropWhile_append]
  split
  case isTrue hn =>
    have hc : cs.dropWhile isBlank = [] := List.isEmpty_iff.mp hn
    rw [hc, dropWhile_isBlank_eq_nil hb]
  case isFalse =>
    rw [trimEnd, trimEnd, List.reverse_append,
      List.dropWhile_append_of_pos (List.all_eq_true.mp hr)]

theorem isBlankText_append (hb : bs.all isBlank) : isBlankText (cs ++ bs) = isBlankText cs := by
  rw [isBlankText, isBlankText, List.all_append, hb, Bool.and_true]

theorem isBlankText_append_eq_false (hn : cs ≠ []) (hc : Trimmed cs) :
    isBlankText (bs ++ cs) = false := by
  cases cs
  case nil => contradiction
  case cons c cs =>
    have h : isBlank c = false := by simpa using hc.head
    simp [isBlankText, h]

-- What is left of a text when the blanks at both ends are taken away.
structure IsCore (core cs : List Char) : Prop where
  trimmed : Trimmed core
  blanks  : ∃ before after,
    cs = before ++ (core ++ after) ∧ before.all isBlank ∧ after.all isBlank

theorem isCore_trim (cs : List Char) : IsCore (trim cs) cs where
  trimmed := trimmed_trim cs
  blanks  := by
    refine ⟨cs.takeWhile isBlank, (trimStart cs).rtakeWhile isBlank, ?_, ?_, ?_⟩
    · have he : trim cs ++ (trimStart cs).rtakeWhile isBlank = trimStart cs :=
        List.rdropWhile_append_rtakeWhile
      rw [he, trimStart, List.takeWhile_append_dropWhile]
    · exact List.all_takeWhile
    · exact List.all_eq_true.mpr fun c hc => List.mem_rtakeWhile_imp hc

theorem isCore_iff {core : List Char} : IsCore core cs ↔ core = trim cs := by
  constructor
  case mp =>
    intro ⟨ht, before, after, hc, hb, ha⟩
    rw [hc, trim_blanks_append hb, trim_append_blanks _ ha, trim_eq_self ht]
  case mpr =>
    intro h
    exact h ▸ isCore_trim cs

end MenuOutline.Text
