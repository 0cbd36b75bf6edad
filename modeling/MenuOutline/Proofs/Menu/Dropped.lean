import MenuOutline.Proofs.Menu.Cut
import MenuOutline.Proofs.Outline.Nodes
import MenuOutline.Proofs.Pairing

-- How many pages a menu has: one for each line of its first section that is neither blank nor a
-- comment, less those that are dropped.

namespace MenuOutline

namespace PageTree

variable {language : String} {maxDepth : Nat} {s : Section} {t : PageTree} {vs : List Verdict}
  {v : Verdict}

theorem Records.number_mem_dropped_iff (r : Records language s t vs) (h : Section.Ascending s)
    (hv : v ∈ vs) : v.source.number ∈ t.dropped ↔ v.kept = false := by
  have hn : (vs.map (·.source.number)).Nodup := by
    have hs : vs.map (·.source.number) = (s.filter (!Line.isIdle ·.text)).map (·.number) := by
      rw [← r.sources, List.map_map]
      rfl
    rw [hs, List.Nodup, List.pairwise_map]
    exact (h.filter _).imp Nat.ne_of_lt
  rw [r.dropped, List.mem_map]
  constructor
  case mp =>
    intro ⟨w, hw, he⟩
    have ⟨hw, hk⟩ := List.mem_filter.mp hw
    have he := List.inj_on_of_nodup_map hn hw hv he
    simpa [he] using hk
  case mpr => exact fun hk => ⟨v, List.mem_filter.mpr ⟨hv, by simp [hk]⟩, rfl⟩

-- Of the lines that are neither blank nor comments, those that are not dropped have a page each.
theorem length_entries_add_dropped (hb : build language maxDepth s = .ok t)
    (h : Section.Ascending s) :
    let texts := s.filter (!Line.isIdle ·.text)
    t.pages.entries.length + (texts.filter (·.number ∈ t.dropped)).length = texts.length := by
  intro texts
  have ⟨vs, r⟩ := exists_records hb
  have ht : texts = vs.map (·.source) := r.sources.symm
  have hd : (texts.filter (·.number ∈ t.dropped)).length = (vs.filter (!·.kept)).length := by
    rw [ht, List.filter_map, List.length_map]
    refine congrArg _ <| List.filter_congr fun v hv => ?_
    simp [r.number_mem_dropped_iff h hv]
  rw [hd, ht, r.entries_eq, List.length_map, List.length_map]
  exact (List.length_eq_length_filter_add _).symm

end PageTree

namespace Menu

variable {o : ParseOptions} {sections : List Section} {content : String} {m : Menu}

theorem Parses.pageCount_eq (h : Parses o sections m) :
    m.pageCount = m.primary.entries.length := by
  have hc : m.combined.map (fun _ => ()) = m.primary.map (fun _ => ()) := by
    rw [h.combined_eq]
    exact map_withCounterparts _ fun _ _ => rfl
  rw [pageCount_eq_size, Outline.size_eq_of_map_eq hc, Outline.length_entries]

-- The lines that the second section drops are not lines of the first one.
theorem Parses.exists_first_tree (h : Parses o sections m)
    (ha : Section.Ascending sections.flatten) :
    ∃ first ∈ sections.head?, ∃ t, PageTree.build o.languages.primary o.maxDepth first = .ok t ∧
      m.primary = t.pages ∧ Section.Ascending first ∧
      ∀ l ∈ first, l.number ∈ m.droppedLines ↔ l.number ∈ t.dropped := by
  cases h
  case one first t hp =>
    refine ⟨first, rfl, t, hp, rfl, by simpa using ha, fun l _ => ?_⟩
    simp [ofTrees]
  case two first second others t t' hp hq =>
    rw [List.flatten_cons, Section.Ascending, List.pairwise_append] at ha
    have ⟨hf, _, hs⟩ := ha
    refine ⟨first, rfl, t, hp, rfl, hf, fun l hl => ⟨fun hm => ?_, List.mem_append_left _⟩⟩
    refine (List.mem_append.mp hm).resolve_right fun hm => ?_
    have ⟨k, hk, he⟩ := PageTree.exists_of_mem_dropped hq hm
    have hn := hs l hl k (List.mem_append_left _ hk)
    exact absurd he <| Nat.ne_of_gt hn

theorem pageCount_add_dropped (h : parse o content = .ok m) :
    ∃ first ∈ (Section.split content).head?,
      let texts := first.filter (!Line.isIdle ·.text)
      m.pageCount + (texts.filter (·.number ∈ m.droppedLines)).length = texts.length := by
  have ⟨hp, _⟩ := parse_eq_ok_iff.mp h
  have ⟨first, hf, t, hb, hm, ha, hn⟩ := hp.exists_first_tree <| Section.ascending_split content
  refine ⟨first, hf, ?_⟩
  intro texts
  have he : texts.filter (·.number ∈ m.droppedLines) = texts.filter (·.number ∈ t.dropped) :=
    List.filter_congr fun l hl => decide_eq_decide.mpr <| hn l (List.mem_filter.mp hl).left
  rw [hp.pageCount_eq, hm, he]
  exact PageTree.length_entries_add_dropped hb ha

end Menu

end MenuOutline
