import MenuOutline.Line
import MenuOutline.Proofs.Line.Token
import MenuOutline.Proofs.Text.Lines
import MenuOutline.Proofs.Text.Trim
import MenuOutline.Section

namespace MenuOutline

namespace Text

variable {cs : List Char}

theorem length_takeWhile_replicate {p : Char → Bool} {c : Char} (n : Nat) (hc : p c)
    (h : cs.head?.all (!p ·)) : ((List.replicate n c ++ cs).takeWhile p).length = n := by
  have hr : ∀ d ∈ List.replicate n c, p d := fun d hd => List.eq_of_mem_replicate hd ▸ hc
  have he : cs.takeWhile p = [] := by
    cases cs
    case nil => rfl
    case cons d cs =>
      have hd : p d = false := by simpa using h
      simp [hd]
  rw [List.takeWhile_append_of_pos hr, he, List.append_nil, List.length_replicate]

end Text

namespace Line

variable {cs : List Char} {depth : Nat}

-- A label none of whose characters has another meaning on a line.
structure Plain (cs : List Char) : Prop where
  ne_nil      : cs ≠ []
  trimmed     : Text.Trimmed cs
  newline     : '\n' ∉ cs
  parenthesis : '(' ∉ cs
  comment     : cs.head? ≠ some '#'
  bullet      : cs.head? = some '-' → cs.tail.head?.all (!Text.isBlank ·)
  hyphens     : cs.all (· == '-') = false

instance : Decidable (Plain cs) :=
  decidable_of_iff (cs ≠ [] ∧ Text.Trimmed cs ∧ '\n' ∉ cs ∧ '(' ∉ cs ∧ cs.head? ≠ some '#' ∧
      (cs.head? = some '-' → cs.tail.head?.all (!Text.isBlank ·)) ∧ cs.all (· == '-') = false)
    ⟨fun ⟨n, t, l, p, c, b, h⟩ => ⟨n, t, l, p, c, b, h⟩,
      fun ⟨n, t, l, p, c, b, h⟩ => ⟨n, t, l, p, c, b, h⟩⟩

-- Tabs, or two spaces for every level.
def indent (tabbed : Bool) (depth : Nat) : List Char :=
  if tabbed then .replicate depth '\t' else .replicate (2 * depth) ' '

theorem isBlank_indent (tabbed : Bool) (depth : Nat) : (indent tabbed depth).all Text.isBlank := by
  cases tabbed <;> simp [indent, Text.isBlank]

theorem head_not_tab (h : cs.head?.all (!Text.isBlank ·)) : cs.head?.all (!(· == '\t') ·) := by
  cases cs
  case nil => rfl
  case cons c cs =>
    by_cases hc : c = '\t'
    case pos => simp [hc, Text.isBlank] at h
    case neg => simpa using hc

theorem indentation_spaces (n : Nat) (h : cs.head?.all (!Text.isBlank ·)) :
    indentation (List.replicate n ' ' ++ cs) = n / 2 := by
  have hn : (List.replicate n ' ' ++ cs).head? ≠ some '\t' := by
    intro hh
    cases n
    case succ n => simp [List.replicate_succ] at hh
    case zero =>
      have hh : cs.head? = some '\t' := hh
      have ht := head_not_tab h
      rw [hh] at ht
      contradiction
  rw [indentation, if_neg hn, Text.length_takeWhile_replicate n rfl h]

theorem indentation_tabs (n : Nat) (h : cs.head?.all (!Text.isBlank ·)) :
    indentation (List.replicate n '\t' ++ cs) = n := by
  cases n
  case zero => exact indentation_spaces 0 h
  case succ n =>
    have hh : (List.replicate (n + 1) '\t' ++ cs).head? = some '\t' := rfl
    rw [indentation, if_pos hh, Text.length_takeWhile_replicate (n + 1) rfl (head_not_tab h)]

theorem dropBullet_eq_self (h : cs.head? = some '-' → cs.tail.head?.all (!Text.isBlank ·)) :
    dropBullet cs = cs := by
  unfold dropBullet
  split
  case h_1 c cs =>
    have hc : Text.isBlank c = false := by simpa using h
    simp [hc]
  case h_2 => rfl

namespace Plain

theorem isLine (p : Plain cs) (tabbed : Bool) : Text.IsLine (indent tabbed depth ++ cs) where
  newline := by
    have hi : '\n' ∉ indent tabbed depth := by cases tabbed <;> simp [indent]
    simp [hi, p.newline]
  ending := by
    intro he
    have hl := List.getLast?_append_of_ne_nil _ p.ne_nil ▸ he
    have h := p.trimmed.last
    rw [hl] at h
    contradiction

theorem trim_line (p : Plain cs) (tabbed : Bool) : Text.trim (indent tabbed depth ++ cs) = cs :=
  Text.trim_append (isBlank_indent tabbed depth) p.trimmed

theorem indentation_line (p : Plain cs) (tabbed : Bool) :
    indentation (indent tabbed depth ++ cs) = depth := by
  cases tabbed
  case false =>
    have h := indentation_spaces (2 * depth) p.trimmed.head
    rwa [Nat.mul_div_cancel_left depth Nat.two_pos] at h
  case true => exact indentation_tabs depth p.trimmed.head

theorem isIdle_line (p : Plain cs) (tabbed : Bool) :
    isIdle (indent tabbed depth ++ cs) = false := by
  rw [isIdle, p.trim_line]
  cases cs
  case nil => exact absurd rfl p.ne_nil
  case cons c cs => simpa using p.comment

theorem label_eq_self (p : Plain cs) : label cs = cs := by
  have hs : Seo.strip cs = cs :=
    ((Seo.opens_removal.map (·.2)).inert p.parenthesis).erase_eq_self
  have hm : Text.erase Markers.afterStars? cs = cs :=
    (Markers.opens_stars.inert p.parenthesis).erase_eq_self
  have hb : Text.erase Markers.afterByHand? cs = cs :=
    (Markers.opens_byHand.inert p.parenthesis).erase_eq_self
  rw [label, hs, Markers.strip, hm, hb, Text.trim_eq_self p.trimmed]

theorem read?_line (p : Plain cs) (language : String) (tabbed : Bool) (depth : Nat) :
    ∃ l, read? language (indent tabbed depth ++ cs) = some l ∧
      l.level = depth ∧ l.name = .ofList cs := by
  refine ⟨_, if_neg ?_, p.indentation_line tabbed, ?_⟩
  · simp [p.isIdle_line]
  · rw [ofLabel, p.trim_line, dropBullet_eq_self p.bullet, p.label_eq_self]

theorem isDelimiter_line (p : Plain cs) (tabbed : Bool) :
    Section.isDelimiter (indent tabbed depth ++ cs) = false := by
  simp [Section.isDelimiter, p.trim_line, p.hyphens]

theorem isBlankText_line (p : Plain cs) (tabbed : Bool) :
    Text.isBlankText (indent tabbed depth ++ cs) = false :=
  Text.isBlankText_append_eq_false p.ne_nil p.trimmed

end Plain
end Line
end MenuOutline
