import MenuOutline.Proofs.Menu.Depth
import MenuOutline.Proofs.Section.Cut

namespace MenuOutline

namespace Section

theorem le_length_of_mem_numberFrom {l : SourceLine} {css : List (List Char)}
    (h : l ∈ numberFrom 1 css) : l.number ≤ css.length := by
  rw [numberFrom_eq] at h
  obtain ⟨⟨cs, n⟩, hm, rfl⟩ := List.mem_map.mp h
  have hn : n < 1 + css.length := List.snd_lt_add_of_mem_zipIdx hm
  exact Nat.lt_one_add_iff.mp hn

end Section

theorem PageTree.exists_of_mem_dropped {language : String} {maxDepth n : Nat} {s : Section}
    {t : PageTree} (h : build language maxDepth s = .ok t) (hn : n ∈ t.dropped) :
    ∃ l ∈ s, l.number = n := by
  have ⟨vs, r⟩ := exists_records h
  rw [r.dropped] at hn
  have ⟨v, hv, hvn⟩ := List.mem_map.mp hn
  have hs : v.source ∈ vs.map (·.source) := List.mem_map_of_mem (List.mem_filter.mp hv).left
  rw [r.sources] at hs
  exact ⟨v.source, (List.mem_filter.mp hs).left, hvn⟩

open Section

namespace Menu

variable {o : ParseOptions} {first second : Section} {sections others : List Section}
  {content content' : String} {m : Menu} {n : Nat} {fault : TooDeep}

theorem Parses.exists_of_mem_droppedLines (h : Parses o sections m) (hn : n ∈ m.droppedLines) :
    ∃ l ∈ (sections.take 2).flatten, l.number = n := by
  cases h
  case one hp =>
    have hn := (List.mem_append.mp hn).resolve_right List.not_mem_nil
    have ⟨l, hl, hln⟩ := PageTree.exists_of_mem_dropped hp hn
    exact ⟨l, by simpa using hl, hln⟩
  case two hp hq =>
    cases List.mem_append.mp hn
    case inl hn =>
      have ⟨l, hl, hln⟩ := PageTree.exists_of_mem_dropped hp hn
      exact ⟨l, by simp [hl], hln⟩
    case inr hn =>
      have ⟨l, hl, hln⟩ := PageTree.exists_of_mem_dropped hq hn
      exact ⟨l, by simp [hl], hln⟩

theorem checkPairing_ignoredSections : checkPairing o { m with ignoredSections := n } =
    (checkPairing o m).map ({ · with ignoredSections := n }) := by
  cases ho : o.strictPairing <;> cases hm : m.pairingMismatches <;>
    simp [checkPairing, ho, hm, Except.map]

-- The sections after the second are counted, and nothing else is done with them.
theorem ofSections_eq_map : ofSections o (first :: second :: others) =
    (ofSections o [first, second]).map ({ · with ignoredSections := others.length }) := by
  rw [ofSections, ofSections]
  cases buildTree o.languages.primary o.maxDepth first
  case error      => rfl
  case ok primary =>
    cases buildTree o.secondaryLanguage o.maxDepth second
    case error        => rfl
    case ok secondary => exact checkPairing_ignoredSections (m := ofTrees primary secondary 0)

theorem ofSections_pair_eq_ok (h : ofSections o [first, second] = .ok m) :
    m.ignoredSections = 0 := by
  have ⟨hp, _⟩ := ofSections_eq_ok_iff.mp h
  cases hp
  rfl

theorem parse_eq_map_of_isCut (h : IsCut 2 content content') (o : ParseOptions) :
    parse o content =
      (parse o content').map ({ · with ignoredSections := (split content).length - 2 }) := by
  have ⟨others, hs⟩ := h.exists_split_eq_append
  have ⟨first, second, hf⟩ := List.length_eq_two.mp h.sections
  rw [parse, parse, hs, hf]
  exact ofSections_eq_map

theorem ignoredSections_of_isCut (h : IsCut 2 content content') (hm : parse o content' = .ok m) :
    m.ignoredSections = 0 := by
  have ⟨first, second, hf⟩ := List.length_eq_two.mp h.sections
  rw [parse, hf] at hm
  exact ofSections_pair_eq_ok hm

theorem le_length_of_mem_take {l : SourceLine} (hl : l ∈ ((split content).take 2).flatten) :
    l.number ≤ (Text.lines content.toList).length :=
  le_length_of_mem_numberFrom <| (flatten_take_sublist 2 content).subset hl

theorem line_le_length_of_tooDeep (h : parse o content = .error (.tooDeep fault)) :
    fault.line ≤ (Text.lines content.toList).length := by
  have ⟨before, l, after, hl, _, _, hf⟩ :=
    firstTooDeep?_eq_some_iff.mp <| ofSections_eq_tooDeep_iff.mp h
  exact hf ▸ le_length_of_mem_take (hl ▸ List.mem_append_cons_self)

theorem le_length_of_mem_droppedLines (h : parse o content = .ok m) (hn : n ∈ m.droppedLines) :
    n ≤ (Text.lines content.toList).length := by
  have ⟨l, hl, hln⟩ := (parse_eq_ok_iff.mp h).left.exists_of_mem_droppedLines hn
  exact hln ▸ le_length_of_mem_take hl

-- What follows the first two sections of a menu is counted, and the menu is otherwise read as if it
-- ended with them. So no line there is too deep or dropped.
theorem parse_cut (o : ParseOptions) (content : String) (h : 3 ≤ (split content).length) :
    (∃! content', IsCut 2 content content') ∧ ∀ content', IsCut 2 content content' →
      ((∃ e, parse o content = .error e ∧ parse o content' = .error e) ∨
        ∃ m : Menu, parse o content = .ok { m with ignoredSections := (split content).length - 2 } ∧
          parse o content' = .ok { m with ignoredSections := 0 }) ∧
      (∀ fault, parse o content = .error (.tooDeep fault) →
        fault.line ≤ (Text.lines content'.toList).length) ∧
      ∀ m, parse o content = .ok m →
        ∀ n ∈ m.droppedLines, n ≤ (Text.lines content'.toList).length := by
  have ⟨content', hc⟩ := exists_isCut Nat.two_pos h
  refine ⟨⟨content', hc, fun _ hc' => hc'.unique hc⟩, fun content' hc => ?_⟩
  have hp := parse_eq_map_of_isCut hc o
  cases hr : parse o content'
  case error e =>
    rw [hr] at hp
    refine ⟨.inl ⟨e, hp, rfl⟩, fun fault hf => ?_, fun m hm => ?_⟩
    · have he : e = .tooDeep fault := Except.error.inj <| hp.symm.trans hf
      exact line_le_length_of_tooDeep (he ▸ hr)
    · cases hp.symm.trans hm
  case ok m =>
    rw [hr] at hp
    refine ⟨.inr ⟨m, hp, ?_⟩, fun fault hf => ?_, fun m' hm n hn => ?_⟩
    · rw [← ignoredSections_of_isCut hc hr]
    · cases hp.symm.trans hf
    · obtain rfl := Except.ok.inj <| hp.symm.trans hm
      exact le_length_of_mem_droppedLines hr hn

-- A file with a line dropped from its second section, and two more sections with lines that are too
-- deep, or that no page stands above.
theorem parse_cut_repeated :
    let o : ParseOptions := ⟨⟨"es", some "ca"⟩, 2, false⟩
    let content' := "Inicio\n----------\n----------\n  Carta\nInici\n\n"
    let content := content' ++ "----------\n----------\n        Vins\n----------\n  Blog\n"
    3 ≤ (split content).length ∧ IsCut 2 content content' ∧
      ∃ m : Menu, parse o content = .ok { m with ignoredSections := 2 } ∧
        parse o content' = .ok { m with ignoredSections := 0 } ∧ m.droppedLines = [4] := by
  intro o content' content
  have hn : (split content).length = 4 := by decide +kernel
  have h : 3 ≤ (split content).length := hn ▸ by decide
  have hc : IsCut 2 content content' := {
    delimiter := ⟨_, String.toList_append, "----------".toList, by decide +kernel, by decide +kernel⟩
    lineStart := by decide +kernel
    sections  := by decide +kernel
    text      := by decide +kernel }
  have hd : (parse o content).map (·.droppedLines) = .ok [4] := by decide +kernel
  refine ⟨h, hc, ?_⟩
  cases ((parse_cut o content h).right content' hc).left
  case inl he =>
    have ⟨e, he, _⟩ := he
    rw [he] at hd
    contradiction
  case inr hm =>
    have ⟨m, hm, hm'⟩ := hm
    rw [hm] at hd
    rw [hn] at hm
    exact ⟨m, hm, hm', Except.ok.inj hd⟩

end Menu

end MenuOutline
