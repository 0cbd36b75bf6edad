import MenuOutline.Text.Blank
import MenuOutline.Text.Lines
import Mathlib.Data.List.DropRight

namespace MenuOutline.Text

variable {c : Char} {cs l rest : List Char} {ls : List (List Char)}

-- A line that holds no line feed and does not end in what a line feed would take with it.
structure IsLine (l : List Char) : Prop where
  newline : '\n' ∉ l
  ending  : l.getLast? ≠ some '\r'

theorem lines_cons (hn : c ≠ '\n') (hr : c = '\r' → cs.head? ≠ some '\n') (h : lines cs = l :: ls) :
    lines (c :: cs) = (c :: l) :: ls := by
  rw [lines]
  case _ => rw [h]
  case _ => exact hn
  case _ => exact fun rest hc hcs => hr hc <| hcs ▸ rfl

theorem IsLine.of_cons (h : IsLine (c :: l)) : IsLine l where
  newline := fun hn => h.newline <| .tail _ hn
  ending  := fun he => h.ending <| by rw [List.getLast?_cons, he]; rfl

theorem lines_append_newline (h : IsLine l) : lines (l ++ '\n' :: rest) = l :: lines rest := by
  induction l
  case nil => exact lines_newline rest
  case cons c l hi =>
    refine lines_cons (fun hc => h.newline <| hc ▸ .head _) (fun hc hl => ?_) (hi h.of_cons)
    cases l
    case nil => exact h.ending <| hc ▸ rfl
    case cons d l => exact h.of_cons.newline <| Option.some.inj hl ▸ .head _

theorem head?_ne_of_notMem (h : c ∉ l) : l.head? ≠ some c :=
  fun hc => h <| List.mem_of_mem_head? hc

theorem lines_of_newline_notMem (hn : '\n' ∉ l) (he : l ≠ []) : lines l = [l] := by
  induction l
  case nil => contradiction
  case cons c l hi =>
    have ⟨hc, hl⟩ := not_or.mp <| mt List.mem_cons.mpr hn
    cases l
    case nil      => simp [lines, Ne.symm hc]
    case cons d l =>
      exact lines_cons (Ne.symm hc) (fun _ => head?_ne_of_notMem hl) (hi hl (List.cons_ne_nil d l))

-- Lines written one below the other are read back, whether the last one is ended or not.
theorem lines_intercalate (h : ∀ l ∈ ls, IsLine l ∧ l ≠ []) (hn : ls ≠ []) (closed : Bool) :
    lines (['\n'].intercalate ls ++ if closed then ['\n'] else []) = ls := by
  induction ls
  case nil => contradiction
  case cons l ls hi =>
    have ⟨⟨hl, hln⟩, hls⟩ := List.forall_mem_cons.mp h
    cases ls
    case nil =>
      rw [List.intercalate_singleton]
      cases closed
      case false => simpa using lines_of_newline_notMem hl.newline hln
      case true  => exact lines_append_newline hl
    case cons l' ls =>
      rw [List.intercalate_cons_cons]
      simpa using (lines_append_newline hl).trans <| congrArg (l :: ·) (hi hls nofun)

theorem lines_return (cs : List Char) : lines ('\r' :: '\n' :: cs) = [] :: lines cs := by
  simp [lines]

-- A carriage return before a line feed goes with it.
theorem lines_append_return (hn : '\n' ∉ l) :
    lines (l ++ '\r' :: '\n' :: rest) = l :: lines rest := by
  induction l
  case nil => exact lines_return rest
  case cons c l hi =>
    have ⟨hc, hl⟩ := not_or.mp <| mt List.mem_cons.mpr hn
    refine lines_cons (Ne.symm hc) (fun _ => ?_) (hi hl)
    cases l
    case nil      => simp
    case cons d l =>
      have hd : (d :: l).head? ≠ some '\n' := head?_ne_of_notMem hl
      exact hd

-- A line feed ends a line, perhaps with the last character before it.
theorem exists_lines_append_newline (hn : '\n' ∉ l) (rest : List Char) : ∃ l' bs,
    l = l' ++ bs ∧ (bs = [] ∨ bs = ['\r']) ∧ lines (l ++ '\n' :: rest) = l' :: lines rest := by
  by_cases he : l.getLast? = some '\r'
  case neg => exact ⟨l, [], by simp, .inl rfl, lines_append_newline ⟨hn, he⟩⟩
  case pos =>
    have ⟨l', hl⟩ := List.getLast?_eq_some_iff.mp he
    have hn' : '\n' ∉ l' := fun h => hn <| hl ▸ List.mem_append_left _ h
    refine ⟨l', ['\r'], hl, .inr rfl, ?_⟩
    rw [hl, List.append_assoc]
    exact lines_append_return hn'

-- Whether no line has been begun.
def AtLineStart (cs : List Char) : Prop :=
  cs = [] ∨ cs.getLast? = some '\n'

instance : DecidablePred AtLineStart :=
  fun cs => inferInstanceAs (Decidable (cs = [] ∨ cs.getLast? = some '\n'))

theorem AtLineStart.of_cons (h : AtLineStart (c :: cs)) : AtLineStart cs := by
  cases cs
  case nil       => exact .inl rfl
  case cons d cs => exact .inr <| by simpa using h.resolve_left nofun

theorem lines_append (h : AtLineStart cs) : lines (cs ++ rest) = lines cs ++ lines rest := by
  fun_induction lines cs
  case case1 => rfl
  case case2 cs hi => simp [hi h.of_cons]
  case case3 cs hi => simp [lines, hi h.of_cons.of_cons]
  case case4 c cs hn hr hl hi =>
    have hc : some c = some '\n' := (lines_eq_nil_iff.mp hl ▸ h).resolve_left (List.cons_ne_nil c [])
    exact absurd (Option.some.inj hc) hn
  case case5 c cs hn hr line ls hl hi =>
    have hls := hi h.of_cons
    rw [hl] at hls
    refine lines_cons hn (fun hc hh => ?_) hls
    cases cs
    case nil       => simp at hl
    case cons d cs => exact hr cs hc <| Option.some.inj hh ▸ rfl

theorem AtLineStart.append (h : AtLineStart cs) (h' : AtLineStart rest) :
    AtLineStart (cs ++ rest) := by
  cases h'
  case inl hr => simpa [hr] using h
  case inr hr => exact .inr <| by simp [List.getLast?_append, hr]

theorem AtLineStart.of_append (h : AtLineStart (cs ++ rest)) : AtLineStart rest := by
  induction cs
  case nil          => exact h
  case cons c cs hi => exact hi h.of_cons

theorem exists_first_line (h : lines cs = l :: ls) (hn : ls ≠ []) :
    ∃ first rest, cs = first ++ rest ∧ AtLineStart first ∧ lines first = [l] ∧ lines rest = ls := by
  by_cases hc : '\n' ∈ cs
  case pos =>
    have ⟨first, rest, hcs, hf⟩ := List.eq_append_cons_of_mem hc
    have ⟨l', _, _, _, hl⟩ := exists_lines_append_newline hf []
    have hs : AtLineStart (first ++ ['\n']) := .inr List.getLast?_concat
    rw [List.append_cons] at hcs
    rw [hcs, lines_append hs, hl] at h
    have ⟨hl', hr⟩ := List.cons.inj h
    exact ⟨first ++ ['\n'], rest, hcs, hs, hl' ▸ hl, hr⟩
  case neg =>
    have he : cs ≠ [] := fun he => by simp [he] at h
    rw [lines_of_newline_notMem hc he] at h
    exact absurd (List.cons.inj h).right.symm hn

-- A text can be cut between any two of its lines.
theorem exists_of_lines_eq_append {ls' : List (List Char)} (h : lines cs = ls ++ ls')
    (hn : ls' ≠ []) : ∃ before after, cs = before ++ after ∧ AtLineStart before ∧
      lines before = ls ∧ lines after = ls' := by
  induction ls generalizing cs
  case nil => exact ⟨[], cs, rfl, .inl rfl, lines_nil, h⟩
  case cons l ls hi =>
    have ⟨first, rest, hc, hs, hf, hr⟩ :=
      exists_first_line h <| List.append_ne_nil_of_right_ne_nil ls hn
    have ⟨before, after, hr, hs', hb, ha⟩ := hi hr
    refine ⟨first ++ before, after, ?_, hs.append hs', ?_, ha⟩
    · rw [hc, hr, List.append_assoc]
    · rw [lines_append hs, hf, hb]
      rfl

theorem head?_lines_append (h : AtLineStart cs) (hn : cs ≠ []) :
    (lines (cs ++ rest)).head? = (lines cs).head? := by
  rw [lines_append h, List.head?_append_of_ne_nil _ (mt lines_eq_nil_iff.mp hn)]

-- A text with a line put between its lines, or before or after them, and the number of lines before
-- it.
inductive LineInserted (line : List Char) : Nat → List Char → List Char → Prop
  | before {cs ds : List Char} : AtLineStart cs →
    LineInserted line (lines cs).length (cs ++ ds) (cs ++ line ++ '\n' :: ds)
  | after {cs : List Char} : ¬AtLineStart cs → LineInserted line (lines cs).length cs (cs ++ '\n' :: line)

theorem exists_last_line (h : ¬AtLineStart cs) :
    ∃ init last, cs = init ++ last ∧ AtLineStart init ∧ '\n' ∉ last ∧ last ≠ [] := by
  have hs := List.rdropWhile_append_rtakeWhile (p := (· != '\n')) (l := cs)
  have hb : AtLineStart (cs.rdropWhile (· != '\n')) := by
    by_cases he : cs.rdropWhile (· != '\n') = []
    case pos => exact .inl he
    case neg =>
      have hl := List.rdropWhile_last_not _ _ he
      exact .inr <| by simpa [List.getLast?_eq_some_getLast he] using hl
  refine ⟨_, _, hs.symm, hb, fun hn => ?_, fun hn => h ?_⟩
  · simpa using List.mem_rtakeWhile_imp hn
  · rw [hn, List.append_nil] at hs
    exact hs ▸ hb

variable {β : Type} {g : List Char → β} {line ds : List Char} {k : Nat}

theorem map_lines_append_newline (hg : ∀ cs bs, bs.all isBlank → g (cs ++ bs) = g cs)
    (hn : '\n' ∉ l) (rest : List Char) :
    (lines (l ++ '\n' :: rest)).map g = g l :: (lines rest).map g := by
  have ⟨l', bs, hl, hb, hr⟩ := exists_lines_append_newline hn rest
  have hb : bs.all isBlank := by obtain rfl | rfl := hb <;> rfl
  rw [hr, List.map_cons, hl, hg _ _ hb]

-- What does not depend on blanks at the ends of lines is the same before and after the new line.
theorem LineInserted.exists_map_lines (hg : ∀ cs bs, bs.all isBlank → g (cs ++ bs) = g cs)
    (hn : '\n' ∉ line) (he : line ≠ []) (h : LineInserted line k cs ds) :
    ∃ before after, (lines cs).map g = before ++ after ∧ before.length = k ∧
      (lines ds).map g = before ++ g line :: after := by
  cases h
  case before cs ds hs =>
    refine ⟨(lines cs).map g, (lines ds).map g, ?_, List.length_map _, ?_⟩
    · rw [lines_append hs, List.map_append]
    · rw [List.append_assoc, lines_append hs, List.map_append, map_lines_append_newline hg hn]
  case after hs =>
    have ⟨init, last, hc, hb, hl, hle⟩ := exists_last_line hs
    refine ⟨(lines cs).map g, [], (List.append_nil _).symm, List.length_map _, ?_⟩
    rw [hc, List.append_assoc, lines_append hb, lines_append hb, List.map_append, List.map_append,
      map_lines_append_newline hg hl, lines_of_newline_notMem hl hle, lines_of_newline_notMem hn he]
    simp

end MenuOutline.Text
