import MenuOutline.Proofs.Page.WellFormed

-- The variables of pages. Main statement: wherever two pages stand in the trees of a menu, they
-- have one variable exactly if they have one slug.

namespace MenuOutline

theorem Page.WellFormed.variableName_eq_iff {p q : Page} (w : p.WellFormed) (v : q.WellFormed) :
    p.variableName = q.variableName ↔ p.slug = q.slug := by
  rw [w.variableName_eq, v.variableName_eq]
  cases hp : p.slug <;> cases hq : q.slug
  case some.some s t =>
    have hi := Slug.underscored_eq_iff (w.slug_valid s hp) (v.slug_valid t hq)
    rw [Option.map_some, Option.map_some, Option.some.injEq, Option.some.injEq,
      String.ofList_inj, hi]
  all_goals simp

namespace Menu

variable {o : ParseOptions} {sections : List Section} {content : String} {m : Menu}

-- The pages of all trees of a menu.
def pages (m : Menu) : List Page :=
  m.primary.entries ++ m.secondary.elim [] (·.entries) ++ m.combined.entries

theorem Parses.wellFormed_pages (h : Parses o sections m) : ∀ p ∈ m.pages, p.WellFormed := by
  intro p hp
  rw [pages, List.mem_append, List.mem_append] at hp
  obtain (hp | hp) | hp := hp
  · have ⟨_, _, t, ht, he⟩ := h.exists_first
    exact (PageTree.wellFormed_of_build ht p <| he ▸ hp).left
  · cases hs : m.secondary
    case none =>
      rw [hs] at hp
      contradiction
    case some second =>
      rw [hs] at hp
      have ⟨_, _, t, ht, he⟩ := h.exists_second second hs
      exact (PageTree.wellFormed_of_build ht p <| he ▸ hp).left
  · exact h.wellFormed_combined p hp

-- A variable does not mix up slugs, which have no underscores that their hyphens could be taken
-- for. Of other texts it keeps only what may stand in a variable, and of variables all.
theorem variableName_eq_iff_of_parse (h : parse o content = .ok m) :
    (∀ p ∈ m.pages, ∀ q ∈ m.pages, (p.variableName.isSome ↔ p.slug.isSome) ∧
      (p.variableName = q.variableName ↔ p.slug = q.slug)) ∧
    ∀ s, (∀ c ∈ (Slug.variableName s).toList, c.isLower ∨ c.isDigit ∨ c = '_') ∧
      Slug.variableName (Slug.variableName s) = Slug.variableName s := by
  have ⟨hp, _⟩ := parse_eq_ok_iff.mp h
  have w := hp.wellFormed_pages
  refine ⟨fun p hp q hq => ⟨?_, (w p hp).variableName_eq_iff (w q hq)⟩,
    fun s => ⟨fun c hc => ?_, ?_⟩⟩
  · rw [(w p hp).variableName_eq, Option.isSome_map]
  · exact Slug.isVariableChar_iff.mp <| Slug.isVariableChar_of_mem_variableName c hc
  · exact Slug.variableName_eq_self Slug.isVariableChar_of_mem_variableName

-- One slug at two levels and in both sections, and another slug that differs by a hyphen.
theorem variableName_eq_iff_of_parse_hyphen :
    let o : ParseOptions := ⟨⟨"es", some "ca"⟩, 3, false⟩
    let content := "La tienda\n  ¡La tienda!\nLatienda\n----------\nLa-tienda\n"
    ∃ m, parse o content = .ok m ∧ ∃ p ∈ m.pages, ∃ q ∈ m.pages, ∃ r ∈ m.pages,
      p.level ≠ q.level ∧ p.slug = some "la-tienda" ∧ r.slug = some "latienda" ∧
      p.variableName = q.variableName ∧ p.variableName ≠ r.variableName := by
  intro o content
  have hm : ∃ m ∈ (parse o content).toOption, ∃ p ∈ m.pages, ∃ q ∈ m.pages, ∃ r ∈ m.pages,
      p.level ≠ q.level ∧ p.slug = some "la-tienda" ∧ q.slug = some "la-tienda" ∧
      r.slug = some "latienda" := by
    decide +kernel
  have ⟨m, hm, p, hp, q, hq, r, hr, hl, hps, hqs, hrs⟩ := hm
  have h := mem_toOption_parse.mp hm
  have ⟨hv, _⟩ := variableName_eq_iff_of_parse h
  have hpq : p.variableName = q.variableName := (hv p hp q hq).right.mpr <| hps.trans hqs.symm
  have hpr : p.variableName ≠ r.variableName := by
    refine mt (hv p hp r hr).right.mp ?_
    rw [hps, hrs]
    decide
  exact ⟨m, h, p, hp, q, hq, r, hr, hl, hps, hrs, hpq, hpr⟩

end Menu

end MenuOutline
