import MenuOutline.Proofs.Line.Plain
import MenuOutline.Proofs.Menu.Parses
import MenuOutline.Proofs.Pairing
import MenuOutline.Proofs.Section.Split

namespace MenuOutline

namespace Outline

-- A label with the choice of its indentation.
structure Label where
  text   : String
  tabbed : Bool
deriving DecidableEq, Repr

def Label.line (l : Label) (depth : Nat) : List Char :=
  Line.indent l.tabbed depth ++ l.text.toList

-- The lines of an outline of labels, one for each label, indented by its depth.
def lines (o : Outline Label) : List (List Char) :=
  (o.withDepth 0).map fun (l, depth) => l.line depth

-- A whole outline that can stand in a section of a menu.
structure Printable (maxDepth : Nat) (o : Outline Label) : Prop where
  ne_nil : o ≠ nil
  plain  : ∀ l ∈ o.entries, Line.Plain l.text.toList
  height : o.height ≤ maxDepth

end Outline

namespace Outline.Printable

variable {maxDepth : Nat} {o : Outline Label} {language : String} {s : Section}

theorem plain_of_mem (p : Printable maxDepth o) {x : Label × Nat} (h : x ∈ o.withDepth 0) :
    Line.Plain x.1.text.toList :=
  p.plain x.1 <| entries_eq_withDepth ▸ List.mem_map_of_mem h

theorem exists_of_mem {source : SourceLine} (hs : s.map (·.text) = o.lines) (h : source ∈ s) :
    ∃ x ∈ o.withDepth 0, source.text = x.1.line x.2 := by
  have hm : source.text ∈ o.lines := hs ▸ List.mem_map_of_mem h
  have ⟨x, hx, he⟩ := List.mem_map.mp hm
  exact ⟨x, hx, he.symm⟩

theorem isIdle_of_mem {source : SourceLine} (p : Printable maxDepth o)
    (hs : s.map (·.text) = o.lines) (h : source ∈ s) : Line.isIdle source.text = false := by
  have ⟨x, hx, he⟩ := exists_of_mem hs h
  exact he ▸ (p.plain_of_mem hx).isIdle_line _

theorem indentation_of_mem {source : SourceLine} (p : Printable maxDepth o)
    (hs : s.map (·.text) = o.lines) (h : source ∈ s) :
    Line.indentation source.text < maxDepth := by
  have ⟨x, hx, he⟩ := exists_of_mem hs h
  have hd := lt_of_mem_withDepth hx
  rw [Nat.zero_add] at hd
  rw [he, Label.line, (p.plain_of_mem hx).indentation_line]
  exact Nat.lt_of_lt_of_le hd p.height

theorem isLine_of_mem (p : Printable maxDepth o) {l : List Char} (h : l ∈ o.lines) :
    Text.IsLine l ∧ l ≠ [] := by
  have ⟨x, hx, he⟩ := List.mem_map.mp h
  have hp := p.plain_of_mem hx
  exact he ▸ ⟨hp.isLine _, List.append_ne_nil_of_right_ne_nil _ hp.ne_nil⟩

theorem lines_ne_nil (p : Printable maxDepth o) : o.lines ≠ [] := by
  have hn := p.ne_nil
  cases o
  case nil        => contradiction
  case cons l b r => exact List.cons_ne_nil _ _

-- The lines of an outline do not end a section, and none of them is passed over.
theorem splitLines_append {rest : List SourceLine} (p : Printable maxDepth o)
    (hs : s.map (·.text) = o.lines) : Section.splitLines (s ++ rest) =
      (s ++ (Section.splitLines rest).1, (Section.splitLines rest).2) := by
  refine Section.splitLines_append fun source hm => ?_
  have ⟨x, hx, he⟩ := exists_of_mem hs hm
  have hp := p.plain_of_mem hx
  exact he ▸ ⟨hp.isDelimiter_line _, hp.isBlankText_line _⟩

theorem splitLines_eq (p : Printable maxDepth o) (hs : s.map (·.text) = o.lines) :
    Section.splitLines s = (s, []) := by
  rw [← List.append_nil s, p.splitLines_append hs]
  rfl

-- The lines are read back in order: labels and depths.
theorem map_verdicts {t : PageTree} {vs : List PageTree.Verdict} (p : Printable maxDepth o)
    (hs : s.map (·.text) = o.lines) (r : PageTree.Records language s t vs) :
    vs.map (fun v => (v.line.name, v.line.level)) =
      (o.withDepth 0).map fun x => (x.1.text, x.2) := by
  let read (cs : List Char) := (Line.read? language cs).map fun l => (l.name, l.level)
  have hv : vs.map (fun v => some (v.line.name, v.line.level)) =
      ((vs.map (·.source)).map (·.text)).map read := by
    simp only [List.map_map]
    exact List.map_congr_left fun v hv => by simp [read, r.lines v hv]
  have ho : o.lines.map read = (o.withDepth 0).map fun x => some (x.1.text, x.2) := by
    simp only [lines, List.map_map]
    refine List.map_congr_left fun x hx => ?_
    have ⟨l, hl, hd, hn⟩ := (p.plain_of_mem hx).read?_line language x.1.tabbed x.2
    simp only [Function.comp, read, Label.line, hl]
    simp [hd, hn]
  have hf : s.filter (!Line.isIdle ·.text) = s :=
    List.filter_eq_self.mpr fun source h => by simp [p.isIdle_of_mem hs h]
  rw [r.sources, hf, hs, ho] at hv
  refine List.map_injective_iff.mpr (Option.some_injective _) ?_
  rw [List.map_map, List.map_map]
  exact hv

-- A section that holds the lines of an outline gives a tree of its shape and its labels.
theorem exists_build (language : String) (p : Printable maxDepth o)
    (hs : s.map (·.text) = o.lines) :
    ∃ t, PageTree.build language maxDepth s = .ok t ∧ t.dropped = [] ∧
      t.pages.map (·.name) = o.map (·.text) := by
  have ⟨t, h⟩ := (PageTree.exists_build_iff language).mpr fun source hm _ =>
    p.indentation_of_mem hs hm
  have ⟨vs, r⟩ := PageTree.exists_records h
  have hv := p.map_verdicts hs r
  have hd : vs.map (·.line.level) = (o.withDepth 0).map (·.2) := by
    have hd := congrArg (List.map Prod.snd) hv
    rwa [List.map_map, List.map_map] at hd
  have hk := r.kept_of_depths hd
  refine ⟨t, h, ?_, withDepth_injective (d := 0) ?_⟩
  · rw [r.dropped, List.filter_eq_nil_iff.mpr fun v hv => by simp [hk v hv], List.map_nil]
  · rw [withDepth_map, withDepth_map, r.pages, List.filter_eq_self.mpr hk, List.map_map]
    exact hv

end Outline.Printable

namespace Menu

-- The lines of one or two outlines, with a line of hyphens between the two.
def printedLines (first : Outline Outline.Label) (hyphens : Nat)
    (second : Option (Outline Outline.Label)) : List (List Char) :=
  first.lines ++ second.elim [] fun o => List.replicate hyphens '-' :: o.lines

-- `closed` tells whether the last line is ended.
def print (first : Outline Outline.Label) (hyphens : Nat)
    (second : Option (Outline Outline.Label)) (closed : Bool) : String :=
  .ofList <| ['\n'].intercalate (printedLines first hyphens second) ++ if closed then ['\n'] else []

section

variable {o : ParseOptions} {maxDepth hyphens : Nat} {first : Outline Outline.Label}
  {second : Option (Outline Outline.Label)} {closed : Bool}

theorem lines_print (hf : first.Printable maxDepth) (hh : 10 ≤ hyphens)
    (hs : ∀ s ∈ second, s.Printable maxDepth) :
    Text.lines (print first hyphens second closed).toList = printedLines first hyphens second := by
  rw [print, String.toList_ofList]
  have hn : printedLines first hyphens second ≠ [] :=
    List.append_ne_nil_of_left_ne_nil hf.lines_ne_nil _
  refine Text.lines_intercalate (fun l hl => ?_) hn _
  cases List.mem_append.mp hl
  case inl hm => exact hf.isLine_of_mem hm
  case inr hm =>
    cases second
    case none => contradiction
    case some s =>
      cases hm
      case tail hm => exact (hs s rfl).isLine_of_mem hm
      case head =>
        refine ⟨⟨?_, ?_⟩, ?_⟩
        · simp
        · cases hyphens <;> simp [List.getLast?_replicate]
        · exact List.ne_nil_of_length_pos <| by simpa using Nat.lt_of_lt_of_le (by decide) hh

-- The outlines that were printed stand in sections of their own.
theorem map_split_print (hf : first.Printable maxDepth) (hh : 10 ≤ hyphens)
    (hs : ∀ s ∈ second, s.Printable maxDepth) :
    (Section.split (print first hyphens second closed)).map (·.map (·.text)) =
      first.lines :: second.toList.map Outline.lines := by
  rw [Section.split, lines_print hf hh hs, printedLines, Section.numberFrom_append]
  simp only [hf.splitLines_append Section.map_text_numberFrom]
  cases second
  case none =>
    simp only [Option.elim_none, Section.numberFrom, Section.splitLines, List.append_nil]
    rw [Section.consNonEmpty_of_ne_nil <| Section.numberFrom_ne_nil hf.lines_ne_nil]
    simp [Section.map_text_numberFrom]
  case some s =>
    have hp := hs s rfl
    have hl {n : Nat} := hp.splitLines_eq (Section.map_text_numberFrom (n := n))
    simp only [Option.elim_some, Section.numberFrom, Section.splitLines, hl,
      Section.isDelimiter_replicate hh, if_true, List.append_nil]
    rw [Section.consNonEmpty_of_ne_nil <| Section.numberFrom_ne_nil hf.lines_ne_nil,
      Section.consNonEmpty_of_ne_nil <| Section.numberFrom_ne_nil hp.lines_ne_nil]
    simp [Section.map_text_numberFrom]

-- What is printed is read back: the first outline, the second one, and nothing else.
theorem parse_print (ho : o.strictPairing = false) (hf : first.Printable o.maxDepth)
    (hh : 10 ≤ hyphens) (hg : ∀ s ∈ second, s.Printable o.maxDepth) :
    ∃ m, parse o (print first hyphens second closed) = .ok m ∧
      m.primary.map (·.name) = first.map (·.text) ∧
      m.secondary.map (·.map (·.name)) = second.map (·.map (·.text)) ∧
      m.combined.map (·.name) = first.map (·.text) ∧
      m.droppedLines = [] ∧ m.ignoredSections = 0 := by
  have h : (Section.split (print first hyphens second closed)).map (·.map (·.text)) = _ :=
    map_split_print hf hh hg
  cases second
  case none =>
    have ⟨s, others, hl, hs, hr⟩ := List.map_eq_cons_iff.mp h
    cases List.map_eq_nil_iff.mp hr
    have ⟨t, ht, hd, hp⟩ := hf.exists_build o.languages.primary hs
    have hm : Parses o [s] (ofTrees t none 0) := .one ht
    refine ⟨_, parse_eq_ok_iff.mpr ⟨hl ▸ hm, by simp [ho]⟩, hp, rfl, ?_, ?_, rfl⟩
    · exact (map_withCounterparts _ fun _ _ => rfl).trans hp
    · simp [ofTrees, hd]
  case some g =>
    have ⟨s, _, hl, hs, hr⟩ := List.map_eq_cons_iff.mp h
    have ⟨s', others, hl', hs', hn⟩ := List.map_eq_cons_iff.mp hr
    cases hl'
    cases List.map_eq_nil_iff.mp hn
    have ⟨t, ht, hd, hp⟩ := hf.exists_build o.languages.primary hs
    have ⟨t', ht', hd', hp'⟩ := (hg g rfl).exists_build o.secondaryLanguage hs'
    have hm : Parses o [s, s'] (ofTrees t (some t') 0) := .two ht ht'
    refine ⟨_, parse_eq_ok_iff.mpr ⟨hl ▸ hm, by simp [ho]⟩, hp, ?_, ?_, ?_, rfl⟩
    · exact congrArg some hp'
    · exact (map_withCounterparts _ fun _ _ => rfl).trans hp
    · simp [ofTrees, hd, hd']

-- Both kinds of indentation, hyphens within a label and in front of it, and no last line feed.
theorem parse_print_indented :
    let o : ParseOptions := ⟨⟨"es", some "ca"⟩, 3, false⟩
    let first : Outline Outline.Label :=
      .cons ⟨"Inicio", false⟩ (.cons ⟨"Té - Café", true⟩ (.cons ⟨"-5 %", false⟩ .nil .nil) .nil) <|
      .cons ⟨"Blog", false⟩ .nil .nil
    let second : Outline Outline.Label :=
      .cons ⟨"Inici", true⟩ .nil (.cons ⟨"Blog", false⟩ .nil .nil)
    ∃ m, parse o (print first 10 (some second) false) = .ok m ∧
      m.primary.map (·.name) = first.map (·.text) ∧
      m.secondary.map (·.map (·.name)) = some (second.map (·.text)) ∧
      m.combined.map (·.name) = first.map (·.text) ∧
      m.droppedLines = [] ∧ m.ignoredSections = 0 := by
  intro o first second
  have hf : first.Printable 3 := ⟨nofun, by decide, by decide⟩
  have hs : second.Printable 3 := ⟨nofun, by decide, by decide⟩
  exact parse_print rfl hf (Nat.le_refl 10) fun _ h => Option.some.inj h ▸ hs

end
end Menu
end MenuOutline
