import MenuOutline.Site
import MenuOutline.Proofs.Menu.Items
import MenuOutline.Proofs.Menu.Parses
import MenuOutline.Proofs.Pairing

namespace MenuOutline

section Generators

variable {pages : Outline Page} {l : Languages} {business : Option String}

theorem pageFiles_map_alone : pageFiles (pages.map .alone) = pageFiles pages := by
  rw [pageFiles_eq, pageFiles_eq, Outline.entries_map, List.filterMap_map]
  rfl

theorem navigation_cons (p : Page) (below after : Outline Page) :
    navigation (.cons p below after) =
      .cons (NavItem.ofPage p below) (navigation below) (navigation after) :=
  rfl

theorem navigation_map_alone : navigation (pages.map .alone) = navigation pages := by
  induction pages
  case nil => rfl
  case cons p below after hb ha =>
    have he : NavItem.ofPage p.alone (below.map .alone) = NavItem.ofPage p below := by
      cases below <;> rfl
    rw [Outline.map_cons, navigation_cons, navigation_cons, he, hb, ha]

namespace DictionaryEntry

-- Without a second language there is nowhere to put a second text.
theorem make_of_secondary_eq_none (h : l.secondary = none) (key text : String)
    (other : Option String) : make l key text other = ⟨key, [(l.primary, text)]⟩ := by
  simp [make, h, Keyed.insert]

theorem ofPage_alone (h : l.secondary = none) (business : String) (p : Page) :
    ofPage l business p.alone = ofPage l business p := by
  simp only [ofPage, make_of_secondary_eq_none h]
  rfl

theorem texts_of_mem_ofPage (h : l.secondary = none) {business : String} {p : Page}
    {e : DictionaryEntry} (he : e ∈ ofPage l business p) :
    ∃ text, e.texts = [(l.primary, text)] := by
  simp only [ofPage, make_of_secondary_eq_none h] at he
  split at he
  case h_1 => contradiction
  case h_2 =>
    split at he <;> simp only [List.mem_cons, List.not_mem_nil, or_false] at he
    case isTrue  => obtain rfl | rfl | rfl | rfl := he <;> exact ⟨_, rfl⟩
    case isFalse => exact ⟨_, congrArg _ he⟩

end DictionaryEntry

theorem dictionary_map_alone (h : l.secondary = none) :
    dictionary l business (pages.map .alone) = dictionary l business pages := by
  simp only [dictionary_eq, Outline.entries_map, List.flatMap_map, DictionaryEntry.ofPage_alone h]

theorem texts_of_mem_dictionary (h : l.secondary = none) {e : DictionaryEntry}
    (he : e ∈ dictionary l business pages) : ∃ text, e.texts = [(l.primary, text)] := by
  have ⟨_, _, hp⟩ := List.mem_flatMap.mp he
  exact DictionaryEntry.texts_of_mem_ofPage h hp

end Generators

namespace Section

variable {s : Section}

def texts (s : Section) : List (List Char) :=
  s.map (·.text)

theorem items_unnumbered :
    s.items.map (.renumber fun _ => 0) = s.texts.filterMap fun cs => Item.ofSource? ⟨0, cs⟩ := by
  rw [items, texts, List.map_filterMap, List.filterMap_map]
  refine List.filterMap_congr fun source _ => ?_
  rw [Function.comp, Item.ofSource?, Item.ofSource?]
  split <;> rfl

end Section

theorem PageTree.pages_eq_of_texts_eq {language : String} {maxDepth : Nat} {s s' : Section}
    {t t' : PageTree} (h : build language maxDepth s = .ok t)
    (h' : build language maxDepth s' = .ok t') (ht : s.texts = s'.texts) : t.pages = t'.pages := by
  have hb : ofItems language maxDepth (s.items.map (.renumber fun _ => 0)) =
      ofItems language maxDepth (s'.items.map (.renumber fun _ => 0)) := by
    rw [Section.items_unnumbered, Section.items_unnumbered, ht]
  rw [ofItems_renumber, ofItems_renumber, ← build_eq_ofItems, ← build_eq_ofItems, h, h'] at hb
  have hn : t.renumber (fun _ => 0) = t'.renumber fun _ => 0 := Except.ok.inj hb
  exact (PageTree.mk.inj hn).left

namespace Menu

variable {o : ParseOptions} {sections sections' : List Section} {m m' : Menu}

-- The first section alone gives the pages, but for what stands beside them.
theorem Parses.map_alone_eq (h : Parses o sections m) (h' : Parses o sections' m')
    (hs : sections.head?.map Section.texts = sections'.head?.map Section.texts) :
    m.combined.map Page.alone = m'.combined.map Page.alone := by
  have ⟨s, hf, t, hb, hp⟩ := h.exists_first
  have ⟨s', hf', t', hb', hp'⟩ := h'.exists_first
  have ht : s.texts = s'.texts := by simpa [Option.mem_def.mp hf, Option.mem_def.mp hf'] using hs
  rw [h.combined_eq, h'.combined_eq, map_alone_withCounterparts, map_alone_withCounterparts, hp,
    hp', PageTree.pages_eq_of_texts_eq hb hb' ht]

end Menu

namespace Manifest

variable {s : Settings} {content content' : String} {m m' : Menu}

theorem languagesOf_secondary_eq_none (h : s.languages.secondary = none) :
    (languagesOf m s).secondary = none := by
  cases hm : m.hasSecondary <;> simp [languagesOf, hm, h]

-- Files and navigation are those of the first section, whatever stands in the others. Without a
-- second language so is the dictionary, and there are no routes.
theorem build_of_first_section (h : Menu.parse s.parseOptions content = .ok m)
    (h' : Menu.parse s.parseOptions content' = .ok m')
    (hs : (Section.split content).head?.map Section.texts =
      (Section.split content').head?.map Section.texts) :
    (build m s).files = (build m' s).files ∧
    (build m s).navigation = (build m' s).navigation ∧
    (s.languages.secondary = none →
      (build m s).dictionary = (build m' s).dictionary ∧
      (∀ e ∈ (build m s).dictionary, ∃ text, e.texts = [(s.languages.primary, text)]) ∧
      (build m s).routes = [] ∧ (build m' s).routes = []) := by
  have ⟨hr, _⟩ := Menu.parse_eq_ok_iff.mp h
  have ⟨hr', _⟩ := Menu.parse_eq_ok_iff.mp h'
  have hc := hr.map_alone_eq hr' hs
  refine ⟨?files, ?navigation, fun hl => ⟨?dictionary, ?texts, ?routes, ?routes'⟩⟩
  case files =>
    calc pageFiles m.combined
      _ = pageFiles (m.combined.map .alone)  := pageFiles_map_alone.symm
      _ = pageFiles (m'.combined.map .alone) := by rw [hc]
      _ = pageFiles m'.combined              := pageFiles_map_alone
  case navigation =>
    calc MenuOutline.navigation m.combined
      _ = MenuOutline.navigation (m.combined.map .alone)  := navigation_map_alone.symm
      _ = MenuOutline.navigation (m'.combined.map .alone) := by rw [hc]
      _ = MenuOutline.navigation m'.combined              := navigation_map_alone
  case dictionary =>
    have hm := languagesOf_secondary_eq_none (m := m) hl
    have he : languagesOf m s = languagesOf m' s := by
      simp [languagesOf, hl]
    let business := s.project.businessName
    calc MenuOutline.dictionary (languagesOf m s) business m.combined
      _ = MenuOutline.dictionary (languagesOf m s) business (m.combined.map .alone)  :=
        (dictionary_map_alone hm).symm
      _ = MenuOutline.dictionary (languagesOf m s) business (m'.combined.map .alone) := by rw [hc]
      _ = MenuOutline.dictionary (languagesOf m s) business m'.combined              :=
        dictionary_map_alone hm
      _ = MenuOutline.dictionary (languagesOf m' s) business m'.combined             := by rw [he]
  case texts =>
    exact fun e he => texts_of_mem_dictionary (languagesOf_secondary_eq_none hl) he
  case routes  => simp [build, languagesOf_secondary_eq_none hl]
  case routes' => simp [build, languagesOf_secondary_eq_none hl]

-- A second section of another shape, and none.
theorem build_of_first_section_none :
    let s : Settings := { Settings.default with maxDepth := 2 }
    let content  := "Inicio\n  Carta (SEO: La carta)\nBlog (*)\n----------\nHome\nMenu\n"
    let content' := "\nInicio\n  Carta (SEO: La carta)\nBlog (*)"
    ∃ m m', Menu.parse s.parseOptions content = .ok m ∧
      Menu.parse s.parseOptions content' = .ok m' ∧
      (Section.split content).head?.map Section.texts =
        (Section.split content').head?.map Section.texts ∧
      (build m s).files = (build m' s).files ∧
      (build m s).navigation = (build m' s).navigation ∧
      (build m s).dictionary = (build m' s).dictionary ∧
      (∀ e ∈ (build m s).dictionary, ∃ text, e.texts = [(s.languages.primary, text)]) ∧
      (build m s).routes = [] ∧ (build m' s).routes = [] := by
  intro s content content'
  have ⟨m, h⟩   : ∃ m, Menu.parse s.parseOptions content = .ok m :=
    (Menu.exists_ofSections_iff rfl).mpr (by decide)
  have ⟨m', h'⟩ : ∃ m, Menu.parse s.parseOptions content' = .ok m :=
    (Menu.exists_ofSections_iff rfl).mpr (by decide)
  have hs : (Section.split content).head?.map Section.texts =
      (Section.split content').head?.map Section.texts := by decide
  have ⟨hf, hn, hl⟩ := build_of_first_section h h' hs
  exact ⟨m, m', h, h', hs, hf, hn, hl rfl⟩

end Manifest

end MenuOutline
