import MenuOutline.Proofs.Outline.Nodes
import MenuOutline.Proofs.Page.WellFormed
import MenuOutline.Site

namespace MenuOutline

theorem Languages.secondary_ne_of_check {l : Languages} (h : l.check = .ok ()) :
    l.secondary ≠ some l.primary := by
  intro hs
  simp only [check, hs] at h
  split at h
  case isTrue  => contradiction
  case isFalse => simp at h

theorem Settings.check_languages {s : Settings} (h : s.check = .ok ()) :
    s.languages.check = .ok () := by
  unfold check at h
  cases hl : s.languages.check
  case error e => rw [hl] at h; contradiction
  case ok      => rfl

section Generators

variable {pages : Outline Page} {p : Page} {i : NavItem}

-- Every item stands for a page, and every page has its item.
theorem mem_entries_navigation : i ∈ (navigation pages).entries ↔
    ∃ node ∈ pages.nodes, NavItem.ofPage node.1 node.2 = i := by
  rw [navigation, Outline.entries_eq_nodes, Outline.nodes_mapWithBelow, List.map_map]
  exact List.mem_map

theorem exists_page_of_mem_navigation (h : i ∈ (navigation pages).entries) :
    ∃ p ∈ pages.entries, ∃ below, i = .ofPage p below := by
  have ⟨node, hn, hi⟩ := mem_entries_navigation.mp h
  exact ⟨node.1, pages.entries_eq_nodes ▸ List.mem_map_of_mem hn, node.2, hi.symm⟩

theorem exists_item_of_mem_entries (h : p ∈ pages.entries) :
    ∃ below, NavItem.ofPage p below ∈ (navigation pages).entries := by
  rw [Outline.entries_eq_nodes] at h
  have ⟨node, hn, hp⟩ := List.mem_map.mp h
  exact ⟨node.2, mem_entries_navigation.mpr ⟨node, hn, by rw [hp]⟩⟩

theorem hasSubmenu_iff_of_mem_nodes {node : NavItem × Outline NavItem}
    (h : node ∈ (navigation pages).nodes) : node.1.hasSubmenu ↔ node.2 ≠ .nil := by
  rw [navigation, Outline.nodes_mapWithBelow] at h
  have ⟨⟨p, below⟩, _, he⟩ := List.mem_map.mp h
  subst he
  cases below <;> simp [NavItem.ofPage, Outline.isEmpty, Outline.mapWithBelow]

theorem map_name_navigation (pages : Outline Page) :
    (navigation pages).map (·.name) = pages.map (·.name) := by
  have hn : ∀ p below, (NavItem.ofPage p below).name = p.name := fun _ _ => rfl
  exact Outline.map_mapWithBelow hn pages

theorem PageFile.exists_page_of_mem {f : PageFile} (h : f ∈ pageFiles pages) :
    ∃ p ∈ pages.entries, p.file = some f.filename ∧ p.slug = some f.slug ∧
      p.variableName = some f.variableName := by
  have ⟨p, hp, hf⟩ := List.mem_filterMap.mp (pageFiles_eq pages ▸ h)
  have ⟨file, hfile, hf⟩ := Option.bind_eq_some_iff.mp hf
  have ⟨slug, hslug, hf⟩ := Option.bind_eq_some_iff.mp hf
  have ⟨name, hname, hf⟩ := Option.bind_eq_some_iff.mp hf
  cases hf
  exact ⟨p, hp, hfile, hslug, hname⟩

theorem Route.exists_page_of_mem {r : Route} (h : r ∈ routes pages) :
    ∃ p ∈ pages.entries, p.file = some r.file ∧ p.slug = some r.primarySlug := by
  have ⟨p, hp, hr⟩ := List.mem_filterMap.mp (routes_eq pages ▸ h)
  have ⟨file, hfile, hr⟩ := Option.bind_eq_some_iff.mp hr
  have ⟨slug, hslug, hr⟩ := Option.bind_eq_some_iff.mp hr
  have ⟨_, _, hr⟩ := Option.bind_eq_some_iff.mp hr
  cases hr
  exact ⟨p, hp, hfile, hslug⟩

-- The item of a page with a file is a link to its slug.
theorem exists_link (w : p.WellFormed) (hp : p ∈ pages.entries) {file slug : String}
    (hf : p.file = some file) (hs : p.slug = some slug) :
    ∃ i ∈ (navigation pages).entries, i.skipPage = false ∧ i.slug = some slug ∧
      i.variableName = p.variableName ∧ i.url = "/" ++ slug := by
  have ⟨below, hi⟩ := exists_item_of_mem_entries hp
  have hk : ¬p.skipPage := (w.file_isSome.mp <| Option.isSome_of_eq_some hf).left
  have hu : NavItem.urlOf p.slug = "/" ++ slug := by rw [hs, NavItem.urlOf]
  exact ⟨_, hi, Bool.eq_false_of_not_eq_true hk, hs, rfl, hu⟩

namespace DictionaryEntry

variable {l : Languages} {business : Option String} {key : String}

-- A second language of its own leaves the text in the first one alone.
theorem text?_make (h : l.secondary ≠ some l.primary) (key text : String)
    (other : Option String) : (make l key text other).text? l.primary = some text := by
  unfold text? make
  cases hs : l.secondary <;> cases other
  case some.some language other =>
    have hn : l.primary ≠ language := fun he => h <| by rw [hs, he]
    simp [Keyed.lookup_insert_of_ne hn]
  all_goals simp

theorem exists_label (h : l.secondary ≠ some l.primary) (hp : p ∈ pages.entries)
    (hk : p.dictionaryKey = some key) : ∃ e ∈ dictionary l business pages,
      e.key = "Menu" ++ key ∧ e.text? l.primary = some p.name := by
  let e := make l (menuKey key) p.name p.counterpart.name?
  have he : ∀ business, e ∈ ofPage l business p := by
    intro business
    simp only [ofPage, hk]
    exact .head _
  have hm : e ∈ dictionary l business pages := by
    rw [dictionary_eq]
    exact List.mem_flatMap.mpr ⟨p, hp, he _⟩
  exact ⟨e, hm, rfl, text?_make h ..⟩

end DictionaryEntry

end Generators

namespace Manifest

variable {s : Settings} {content : String} {m : Menu}

-- What one part of a manifest refers to is there in another one.
structure Linked (x : Manifest) : Prop where
  labels   : ∀ i ∈ x.navigation.entries, ∀ key ∈ i.dictionaryKey,
    ∃ e ∈ x.dictionary, e.key = "Menu" ++ key ∧ e.text? x.languages.primary = some i.name
  files    : ∀ f ∈ x.files, ∃ i ∈ x.navigation.entries, i.skipPage = false ∧
    i.slug = some f.slug ∧ i.variableName = some f.variableName ∧ i.url = "/" ++ f.slug
  routes   : ∀ r ∈ x.routes, ∃ i ∈ x.navigation.entries, i.skipPage = false ∧
    i.slug = some r.primarySlug ∧ i.url = "/" ++ r.primarySlug
  submenus : ∀ node ∈ x.navigation.nodes, node.1.hasSubmenu ↔ node.2 ≠ .nil

theorem secondary_languagesOf_ne (h : s.check = .ok ()) :
    (languagesOf m s).secondary ≠ some (languagesOf m s).primary := by
  have hn := Languages.secondary_ne_of_check (Settings.check_languages h)
  cases hm : m.hasSecondary <;> simp [languagesOf, hm, hn]

-- Nothing that is made of a menu leads nowhere, and its navigation has the items that the menu has
-- pages, at the same places.
theorem build_linked (hs : s.check = .ok ()) (h : Menu.parse s.parseOptions content = .ok m) :
    (build m s).Linked ∧ (build m s).navigation.map (·.name) = m.combined.map (·.name) := by
  have ⟨hr, _⟩ := Menu.parse_eq_ok_iff.mp h
  have w := hr.wellFormed_combined
  refine ⟨?_, map_name_navigation _⟩
  constructor
  case labels =>
    intro i hi key hk
    have ⟨p, hp, below, he⟩ := exists_page_of_mem_navigation hi
    subst he
    exact DictionaryEntry.exists_label (secondary_languagesOf_ne hs) hp hk
  case files =>
    intro f hf
    have ⟨p, hp, hfile, hslug, hname⟩ := PageFile.exists_page_of_mem hf
    have ⟨i, hi, hk, his, hin, hu⟩ := exists_link (w p hp) hp hfile hslug
    exact ⟨i, hi, hk, his, hin.trans hname, hu⟩
  case routes =>
    intro r hr
    have hm : r ∈ MenuOutline.routes m.combined := by
      rw [build] at hr
      split at hr
      case isTrue  => exact hr
      case isFalse => contradiction
    have ⟨p, hp, hfile, hslug⟩ := Route.exists_page_of_mem hm
    have ⟨i, hi, hk, his, _, hu⟩ := exists_link (w p hp) hp hfile hslug
    exact ⟨i, hi, hk, his, hu⟩
  case submenus => exact fun node hn => hasSubmenu_iff_of_mem_nodes hn

-- Submenus, pages without a file and one that is not even named, in two languages.
theorem build_linked_marked :
    let s : Settings := { Settings.default with languages := ⟨"es", some "ca"⟩ }
    let content := "Inicio\n  Carta (**)\n    Vinos (SEO: Los vinos)\n  (autogestionable)\n" ++
      "Blog (*)\n----------\nInici\n  Carta\n    Vins\n"
    ∃ m, s.check = .ok () ∧ Menu.parse s.parseOptions content = .ok m ∧ (build m s).Linked ∧
      (build m s).navigation.map (·.name) = m.combined.map (·.name) := by
  intro s content
  have hs : s.check = .ok () := by decide
  have ⟨m, h⟩ : ∃ m, Menu.parse s.parseOptions content = .ok m :=
    (Menu.exists_ofSections_iff rfl).mpr (by decide +kernel)
  exact ⟨m, hs, h, build_linked hs h⟩

end Manifest

end MenuOutline
