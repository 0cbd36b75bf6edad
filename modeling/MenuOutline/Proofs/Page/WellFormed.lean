import MenuOutline.Proofs.CamelCase
import MenuOutline.Proofs.Menu.Parses
import MenuOutline.Proofs.PageTree.Records
import MenuOutline.Proofs.Pairing
import MenuOutline.Proofs.Slug.Variable

namespace MenuOutline

theorem Line.slug_eq_empty_or_isValid {l : Line} {language : String} {cs : List Char}
    (h : Line.read? language cs = some l) : l.slug = "" ∨ Slug.isValid l.slug := by
  unfold Line.read? at h
  split at h
  · contradiction
  · cases h
    exact Slug.ofText_eq_empty_or_isValid _ _

namespace Page

-- What the fields of a page say of each other.
structure WellFormed (p : Page) : Prop where
  slug_valid : ∀ s ∈ p.slug, Slug.isValid s
  slug_skip : p.skipPage → p.slug = none
  one_kind : ¬(p.skipPage ∧ p.noSeo) ∧ ¬(p.skipPage ∧ p.automanaged) ∧ ¬(p.noSeo ∧ p.automanaged)
  file_isSome : p.file.isSome ↔ ¬p.skipPage ∧ ¬p.automanaged ∧ p.slug.isSome
  file_eq : ∀ f ∈ p.file, ∀ s ∈ p.slug,
    f = if p.isHome ∨ s ∈ ["inicio", "home", "index"] then "web.php" else s ++ ".php"
  variableName_eq : p.variableName = p.slug.map fun s => .ofList (Slug.underscored s.toList)
  dictionaryKey_chars : ∀ k ∈ p.dictionaryKey, k ≠ "" ∧ ∀ c ∈ k.toList, c.isAlphanum
  home_level : p.isHome → p.level = 0
  counterpart_valid : ∀ s ∈ p.counterpart.slug, Slug.isValid s

variable {p : Page} {l : Line}

theorem mem_nonEmpty?_iff {s t : String} : t ∈ nonEmpty? s ↔ t = s ∧ s ≠ "" := by
  rw [nonEmpty?, Option.mem_def]
  split
  case isTrue h => exact iff_of_false nofun fun ht => ht.right (String.isEmpty_iff.mp h)
  case isFalse h =>
    rw [Option.some.injEq, eq_comm, iff_self_and]
    exact fun _ => mt String.isEmpty_iff.mpr h

theorem slug_ofLine : (ofLine l).slug = if l.kind = .skip then none else nonEmpty? l.slug :=
  rfl

theorem file_ofLine : (ofLine l).file =
    if l.kind.generatesFile then (ofLine l).slug.map (Slug.file · (ofLine l).isHome) else none :=
  rfl

theorem variableName_ofLine : (ofLine l).variableName = (ofLine l).slug.map Slug.variableName :=
  rfl

theorem dictionaryKey_ofLine :
    (ofLine l).dictionaryKey = nonEmpty? (MenuOutline.dictionaryKey l.name) := by
  rw [ofLine]

theorem isValid_of_mem_slug (h : l.slug = "" ∨ Slug.isValid l.slug) :
    ∀ s ∈ (ofLine l).slug, Slug.isValid s ∧ s ≠ "" := by
  intro s hs
  rw [slug_ofLine] at hs
  split at hs
  · contradiction
  · have ⟨he, hn⟩ := mem_nonEmpty?_iff.mp hs
    exact he ▸ ⟨h.resolve_left hn, hn⟩

theorem file_eq_of_ne_empty {s : String} {isHome : Bool} (h : s ≠ "") : Slug.file s isHome =
    if isHome ∨ s ∈ ["inicio", "home", "index"] then "web.php" else s ++ ".php" := by
  simp [Slug.file, Slug.homeFileAliases, Slug.homeFile, h]

theorem one_kind_ofLine (l : Line) : ¬((ofLine l).skipPage ∧ (ofLine l).noSeo) ∧
    ¬((ofLine l).skipPage ∧ (ofLine l).automanaged) ∧
    ¬((ofLine l).noSeo ∧ (ofLine l).automanaged) := by
  cases hk : l.kind <;> simp [ofLine, hk]

theorem file_isSome_ofLine (l : Line) : (ofLine l).file.isSome ↔
    ¬(ofLine l).skipPage ∧ ¬(ofLine l).automanaged ∧ (ofLine l).slug.isSome := by
  rw [file_ofLine]
  cases hk : l.kind <;> simp [ofLine, hk, PageKind.generatesFile]

theorem ofLine_of_generatesFile (hk : l.kind.generatesFile) (hs : l.slug ≠ "") :
    (ofLine l).slug = some l.slug ∧
      (ofLine l).file = some (Slug.file l.slug (ofLine l).isHome) := by
  have hn : l.kind ≠ .skip := by
    intro hn
    rw [hn] at hk
    contradiction
  have hp : (ofLine l).slug = some l.slug := by
    rw [slug_ofLine, if_neg hn]
    exact mem_nonEmpty?_iff.mpr ⟨rfl, hs⟩
  exact ⟨hp, by rw [file_ofLine, if_pos hk, hp, Option.map_some]⟩

theorem wellFormed_ofLine (h : l.slug = "" ∨ Slug.isValid l.slug) : (ofLine l).WellFormed := by
  have hv := isValid_of_mem_slug h
  constructor
  case slug_valid => exact fun s hs => (hv s hs).left
  case slug_skip =>
    intro hk
    rw [slug_ofLine, if_pos (of_decide_eq_true hk)]
  case one_kind => exact one_kind_ofLine l
  case file_isSome => exact file_isSome_ofLine l
  case file_eq =>
    intro f hf s hs
    rw [file_ofLine] at hf
    split at hf
    · rw [hs] at hf
      exact Option.some.inj hf ▸ file_eq_of_ne_empty (hv s hs).right
    · contradiction
  case variableName_eq =>
    rw [variableName_ofLine]
    exact Option.map_congr fun s hs => Slug.variableName_eq_underscored (hv s hs).left
  case dictionaryKey_chars =>
    intro k hk
    have ⟨he, hn⟩ := mem_nonEmpty?_iff.mp (dictionaryKey_ofLine ▸ hk)
    exact he ▸ ⟨hn, fun c hc => isAlphanum_of_mem_dictionaryKey hc⟩
  case home_level =>
    intro hh
    have ⟨hl, _⟩ := Bool.and_eq_true_iff.mp hh
    exact eq_of_beq hl
  case counterpart_valid => exact nofun

theorem WellFormed.with_counterpart (w : p.WellFormed) {q : Option Page}
    (h : ∀ q' ∈ q, q'.WellFormed) :
    { p with counterpart := q.elim .none Counterpart.ofPage }.WellFormed :=
  { w with
    counterpart_valid := by
      cases q
      case none => exact nofun
      case some q => exact (h q rfl).slug_valid }

-- A page with a file lacks none of the names that go with it.
theorem WellFormed.exists_names (w : p.WellFormed) (h : p.hasFile) :
    ∃ file slug name, p.file = some file ∧ p.slug = some slug ∧ p.variableName = some name := by
  have ⟨file, hf⟩ := Option.isSome_iff_exists.mp h
  have ⟨slug, hs⟩ := Option.isSome_iff_exists.mp (w.file_isSome.mp h).right.right
  exact ⟨file, slug, _, hf, hs, by rw [w.variableName_eq, hs, Option.map_some]⟩

end Page

theorem PageTree.wellFormed_of_build {language : String} {maxDepth : Nat} {s : Section}
    {t : PageTree} (h : PageTree.build language maxDepth s = .ok t) :
    ∀ p ∈ t.pages.entries, p.WellFormed ∧ p.counterpart = .none := by
  have ⟨vs, r⟩ := PageTree.exists_records h
  intro p hp
  rw [r.entries_eq] at hp
  have ⟨v, hv, hvp⟩ := List.mem_map.mp hp
  have hl := r.lines v (List.mem_of_mem_filter hv)
  exact hvp ▸ ⟨Page.wellFormed_ofLine (Line.slug_eq_empty_or_isValid hl), rfl⟩

theorem wellFormed_withCounterparts {primary : Outline Page} {secondary : Option (Outline Page)}
    (w : ∀ p ∈ primary.entries, p.WellFormed)
    (v : ∀ t ∈ secondary, ∀ p ∈ t.entries, p.WellFormed) :
    ∀ p ∈ (withCounterparts primary secondary).entries, p.WellFormed := by
  intro p hp
  have ⟨p', hp', q, hq, h⟩ := mem_entries_of_withCounterparts hp
  refine h ▸ (w p' hp').with_counterpart fun q' hq' => ?_
  have ⟨t, ht, hq''⟩ := hq q' hq'
  exact v t ht q' hq''

namespace Menu

variable {o : ParseOptions} {content : String} {sections : List Section} {m : Menu}

theorem Parses.wellFormed_combined (h : Parses o sections m) :
    ∀ p ∈ m.combined.entries, p.WellFormed := by
  have ⟨_, _, t, ht, hp⟩ := h.exists_first
  rw [h.combined_eq]
  refine wellFormed_withCounterparts (fun p hm => ?_) fun pages hs p hm => ?_
  · exact (PageTree.wellFormed_of_build ht p (hp ▸ hm)).left
  · have ⟨_, _, t', ht', hp'⟩ := h.exists_second pages hs
    exact (PageTree.wellFormed_of_build ht' p (hp' ▸ hm)).left

-- Whatever the lines of a menu hold, the fields of its pages fit together.
theorem wellFormed_of_parse (h : parse o content = .ok m) :
    (∀ p ∈ m.primary.entries, p.WellFormed ∧ p.counterpart = .none) ∧
    (∀ t ∈ m.secondary, ∀ p ∈ t.entries, p.WellFormed ∧ p.counterpart = .none) ∧
    (∀ p ∈ m.combined.entries, p.WellFormed) := by
  have ⟨hr, _⟩ := parse_eq_ok_iff.mp h
  have ⟨primary, secondary, ignored, hm, ⟨first, hp⟩, hs⟩ := hr.exists_trees
  subst hm
  have wp := PageTree.wellFormed_of_build hp
  have ws : ∀ t ∈ secondary.map (·.pages), ∀ p ∈ t.entries,
      p.WellFormed ∧ p.counterpart = .none := by
    intro t ht
    have ⟨tree, htree, h⟩ := Option.mem_map.mp ht
    have ⟨second, hq⟩ := hs tree htree
    exact h ▸ PageTree.wellFormed_of_build hq
  refine ⟨wp, ws, fun p hp => ?_⟩
  have ⟨p', hp', q, hq, h⟩ := mem_entries_of_withCounterparts hp
  refine h ▸ (wp p' hp').left.with_counterpart fun q' hq' => ?_
  have ⟨t, ht, hq''⟩ := hq q' hq'
  exact (ws t ht q' hq'').left

-- All markers and a home page below the top, in two languages.
theorem wellFormed_of_parse_marked :
    let o : ParseOptions := ⟨⟨"es", some "ca"⟩, 3, false⟩
    let content := "Té & Café (SEO: Carta)\n  Inicio (**)\n- Blog (AUTOGESTIONABLE)\nOtro (*)\n" ++
      "----------\nTè & Cafè\n  Inici\n"
    ∃ m, parse o content = .ok m ∧
      (∀ p ∈ m.primary.entries, p.WellFormed ∧ p.counterpart = .none) ∧
      (∀ t ∈ m.secondary, ∀ p ∈ t.entries, p.WellFormed ∧ p.counterpart = .none) ∧
      (∀ p ∈ m.combined.entries, p.WellFormed) := by
  intro o content
  have ⟨m, h⟩ : ∃ m, parse o content = .ok m := (exists_ofSections_iff rfl).mpr (by decide)
  exact ⟨m, h, wellFormed_of_parse h⟩

end Menu
end MenuOutline
