import MenuOutline.PageTree
import MenuOutline.Proofs.Outline.Depth

namespace MenuOutline

theorem Line.read?_eq_none_iff {language : String} {cs : List Char} :
    Line.read? language cs = none ↔ Line.isIdle cs := by
  simp [read?]

theorem Page.level_ofLine (l : Line) : (Page.ofLine l).level = l.level :=
  rfl

namespace PageTree

-- What became of a line that holds a page.
structure Verdict where
  source : SourceLine
  line : Line
  kept : Bool
deriving DecidableEq, Repr

-- A line is an orphan if it is more than one level below the last line kept, whose level is given.
-- Before any line is kept, only lines at the top are none.
def IsOrphan : Option Nat → Nat → Prop
  | none, level => 0 < level
  | some last, level => last + 1 < level

instance : DecidableRel IsOrphan
  | none, _ => inferInstanceAs (Decidable (0 < _))
  | some _, _ => inferInstanceAs (Decidable (_ < _))

-- The level of the last line kept.
def lastLevel? (vs : List Verdict) : Option Nat :=
  (vs.filter (·.kept)).getLast?.map (·.line.level)

-- The verdicts on the lines of a section, in order, and the tree that follows from them.
structure Records (language : String) (s : Section) (t : PageTree) (vs : List Verdict) : Prop where
  sources : vs.map (·.source) = s.filter (!Line.isIdle ·.text)
  lines   : ∀ v ∈ vs, Line.read? language v.source.text = some v.line
  orphans : ∀ before v after,
    vs = before ++ v :: after → (v.kept = false ↔ IsOrphan (lastLevel? before) v.line.level)
  pages   : t.pages.withDepth 0 =
    (vs.filter (·.kept)).map fun v => (Page.ofLine v.line, v.line.level)
  dropped : t.dropped = (vs.filter (!·.kept)).map (·.source.number)

namespace Records

variable {language : String} {maxDepth : Nat} {s s' : Section} {t t' : PageTree}
  {vs : List Verdict} {source : SourceLine} {l : Line}

theorem spine_eq (r : Records language s t vs) :
    t.pages.spine = (lastLevel? vs).elim 0 (· + 1) := by
  have h := t.pages.spine_add (d := 0)
  rw [r.pages, List.getLast?_map] at h
  rw [lastLevel?, ← Nat.add_zero t.pages.spine, h]
  cases (vs.filter (·.kept)).getLast? <;> rfl

theorem entries_eq (r : Records language s t vs) :
    t.pages.entries = (vs.filter (·.kept)).map (Page.ofLine ·.line) := by
  rw [Outline.entries_eq_withDepth, r.pages, List.map_map]
  rfl

-- The place for a line is missing exactly if the line is an orphan.
theorem append?_eq_none_iff (r : Records language s t vs) {p : Page} {level : Nat} :
    t.pages.append? p level = none ↔ IsOrphan (lastLevel? vs) level := by
  rw [← Option.not_isSome_iff_eq_none, Outline.append?_isSome_iff, r.spine_eq]
  cases lastLevel? vs <;> simp [IsOrphan]

theorem refl : Records language [] .empty [] where
  sources := rfl
  lines   := nofun
  orphans := by simp
  pages   := rfl
  dropped := rfl

theorem idle (r : Records language s t vs) (h : Line.isIdle source.text) :
    Records language (s ++ [source]) t vs where
  sources := by simp [r.sources, h]
  lines   := r.lines
  orphans := r.orphans
  pages   := r.pages
  dropped := r.dropped

theorem orphans_concat {v : Verdict} (r : Records language s t vs)
    (h : v.kept = false ↔ IsOrphan (lastLevel? vs) v.line.level) (before : List Verdict)
    (w : Verdict) (after : List Verdict) (he : vs ++ [v] = before ++ w :: after) :
    w.kept = false ↔ IsOrphan (lastLevel? before) w.line.level := by
  obtain rfl | ⟨after', z, rfl⟩ := after.eq_nil_or_concat
  · have ⟨hv, hw⟩ := List.append_inj' he rfl
    cases hw
    exact hv ▸ h
  · have he' : vs ++ [v] = (before ++ w :: after') ++ [z] := by simpa using he
    exact r.orphans before w after' (List.append_inj' he' rfl).left

private theorem sources_concat {v : Verdict} (r : Records language s t vs)
    (h : Line.read? language v.source.text = some v.line) :
    (vs ++ [v]).map (·.source) = (s ++ [v.source]).filter (!Line.isIdle ·.text) := by
  have hi : Line.isIdle v.source.text = false := Bool.eq_false_iff.mpr fun hi =>
    Option.some_ne_none _ <| h.symm.trans <| Line.read?_eq_none_iff.mpr hi
  simp [r.sources, hi]

private theorem lines_concat {v : Verdict} (r : Records language s t vs)
    (h : Line.read? language v.source.text = some v.line) :
    ∀ w ∈ vs ++ [v], Line.read? language w.source.text = some w.line := by
  intro w hw
  cases List.mem_append.mp hw
  case inl hw => exact r.lines w hw
  case inr hw => exact List.mem_singleton.mp hw ▸ h

theorem keep (r : Records language s t vs) (h : Line.read? language source.text = some l)
    {pages : Outline Page} (hp : t.pages.append? (.ofLine l) l.level = some pages) :
    Records language (s ++ [source]) { t with pages } (vs ++ [⟨source, l, true⟩]) where
  sources := r.sources_concat h
  lines   := r.lines_concat h
  orphans := r.orphans_concat <| by
    have hk : ¬IsOrphan (lastLevel? vs) l.level := fun ho =>
      Option.some_ne_none _ <| hp.symm.trans <| r.append?_eq_none_iff.mpr ho
    simp [hk]
  pages   := by simp [Outline.withDepth_append? hp, r.pages]
  dropped := by simp [r.dropped]

theorem drop (r : Records language s t vs) (h : Line.read? language source.text = some l)
    (ho : IsOrphan (lastLevel? vs) l.level) :
    Records language (s ++ [source]) { t with dropped := t.dropped ++ [source.number] }
      (vs ++ [⟨source, l, false⟩]) where
  sources := r.sources_concat h
  lines   := r.lines_concat h
  orphans := r.orphans_concat <| by simp [ho]
  pages   := by simp [r.pages]
  dropped := by simp [r.dropped]

-- The step: one more line, with the verdict that the tree gives on it.
theorem add (r : Records language s t vs) (h : Line.read? language source.text = some l) :
    ∃ v, Records language (s ++ [source]) (t.add source.number (.ofLine l)) (vs ++ [v]) := by
  simp only [PageTree.add, Page.level_ofLine]
  cases hp : t.pages.append? (.ofLine l) l.level
  case none       => exact ⟨_, r.drop h (r.append?_eq_none_iff.mp hp)⟩
  case some pages => exact ⟨_, r.keep h hp⟩

-- The run: the lines of a section, added one after the other.
theorem addLines (r : Records language s t vs)
    (h : PageTree.addLines language maxDepth t s' = .ok t') :
    ∃ vs', Records language (s ++ s') t' (vs ++ vs') := by
  induction s' generalizing s t vs <;> simp only [PageTree.addLines] at h
  case nil =>
    cases h
    exact ⟨[], by simpa using r⟩
  case cons source sources hi =>
    cases hl : Line.read? language source.text <;> simp only [hl] at h
    case none =>
      have ⟨vs', r'⟩ := hi (r.idle <| Line.read?_eq_none_iff.mp hl) h
      exact ⟨vs', by simpa using r'⟩
    case some l =>
      split at h
      · contradiction
      · have ⟨v, r'⟩ := r.add hl
        have ⟨vs', r''⟩ := hi r' h
        exact ⟨v :: vs', by simpa using r''⟩

-- Lines that start at the top and never go down by more than one level are all kept.
private theorem kept_of_isChain (r : Records language s t vs)
    (h₀ : ∀ v ∈ vs.head?, v.line.level = 0)
    (hc : vs.IsChain fun v w => w.line.level ≤ v.line.level + 1) : ∀ v ∈ vs, v.kept := by
  suffices h : ∀ before after, vs = before ++ after → ∀ v ∈ before, v.kept from
    h vs [] (List.append_nil vs).symm
  intro before
  induction before using List.reverseRecOn
  case nil => exact fun _ _ => nofun
  case append_singleton before v hi =>
    intro after he
    have he : vs = before ++ v :: after := by simpa using he
    have hb := hi _ he
    -- All lines before this one are kept, so the one right before it is the last one kept.
    have ho : ¬IsOrphan (lastLevel? before) v.line.level := by
      rw [lastLevel?, List.filter_eq_self.mpr hb]
      cases hl : before.getLast?
      case none =>
        have hn := List.getLast?_eq_none_iff.mp hl
        have hv := h₀ v <| by rw [he, hn]; rfl
        simp [IsOrphan, hv]
      case some w =>
        rw [he, List.isChain_append] at hc
        have hv := hc.right.right w hl v rfl
        simp [IsOrphan, hv]
    have hv : v.kept := by
      have hv := (r.orphans before v after he).not.mpr ho
      simpa using hv
    intro w hw
    cases List.mem_append.mp hw
    case inl hw => exact hb w hw
    case inr hw => exact List.mem_singleton.mp hw ▸ hv

-- Lines as deep as the entries of an outline are all kept.
theorem kept_of_depths {α : Type} {o : Outline α} (r : Records language s t vs)
    (h : vs.map (·.line.level) = (o.withDepth 0).map (·.2)) : ∀ v ∈ vs, v.kept := by
  refine r.kept_of_isChain (fun v hv => ?_) ?_
  · have hm : v.line.level ∈ ((o.withDepth 0).map (·.2)).head? := by
      rw [← h, List.head?_map, Option.mem_def.mp hv]
      rfl
    rw [List.head?_map] at hm
    have ⟨x, hx, hxv⟩ := Option.map_eq_some_iff.mp hm
    exact hxv ▸ Outline.snd_of_head?_withDepth hx
  · have hc : ((o.withDepth 0).map (·.2)).IsChain fun m n => n ≤ m + 1 :=
      (List.isChain_map _).mpr <| o.isChain_withDepth 0
    exact (List.isChain_map _).mp <| h ▸ hc

end Records

variable {language : String} {maxDepth : Nat} {s : Section} {t : PageTree}

theorem exists_records (h : build language maxDepth s = .ok t) : ∃ vs, Records language s t vs :=
  Records.refl.addLines h

theorem exists_addLines_iff : (∃ t', addLines language maxDepth t s = .ok t') ↔
    ∀ source ∈ s, Line.isIdle source.text = false → Line.indentation source.text < maxDepth := by
  induction s generalizing t
  case nil => simp [addLines]
  case cons source sources hi =>
    simp only [addLines, Line.read?, List.forall_mem_cons]
    by_cases hs : Line.isIdle source.text
    case pos => simp [hs, hi]
    case neg =>
      by_cases hd : maxDepth ≤ Line.indentation source.text
      case pos => simp [hs, Line.ofLabel, hd]
      case neg => simp [hs, Line.ofLabel, hd, hi, Nat.lt_of_not_le hd]

theorem exists_build_iff (language : String) : (∃ t, build language maxDepth s = .ok t) ↔
    ∀ source ∈ s, Line.isIdle source.text = false → Line.indentation source.text < maxDepth :=
  exists_addLines_iff

-- No line is lost, doubled or put in another place: the pages in order are those of the lines kept,
-- each as deep as its line, and the numbers of all other lines are kept beside them.
theorem build_accounts_for_lines (h : build language maxDepth s = .ok t) :
    ∃ vs, Records language s t vs ∧
      t.pages.entries = (vs.filter (·.kept)).map (Page.ofLine ·.line) ∧
      ∀ x ∈ t.pages.withDepth 0, x.2 = x.1.level := by
  have ⟨vs, r⟩ := exists_records h
  refine ⟨vs, r, r.entries_eq, fun x hx => ?_⟩
  rw [r.pages] at hx
  have ⟨v, _, hv⟩ := List.mem_map.mp hx
  exact hv ▸ rfl

-- A line before any page, a comment, a line two levels below the last one and a way back up.
theorem build_accounts_for_lines_mixed :
    let s := Section.numberFrom 1
      ["  A".toList, "B".toList, "# C".toList, "    D".toList, "\tE".toList, "    F".toList]
    ∃ t, build "es" 3 s = .ok t ∧
      ∃ vs, Records "es" s t vs ∧
        t.pages.entries = (vs.filter (·.kept)).map (Page.ofLine ·.line) ∧
        ∀ x ∈ t.pages.withDepth 0, x.2 = x.1.level := by
  intro s
  have ⟨t, h⟩ : ∃ t, build "es" 3 s = .ok t := (exists_build_iff _).mpr (by decide)
  exact ⟨t, h, build_accounts_for_lines h⟩

end PageTree
end MenuOutline
