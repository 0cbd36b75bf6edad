import MenuOutline.Proofs.Dictionary.Keys
import MenuOutline.Proofs.Page.WellFormed

namespace MenuOutline

private theorem filterMap_eq_map_filter {α β : Type} {as : List α} {p : α → Bool} {f : α → β}
    {g : α → Option β} (h : ∀ a ∈ as, g a = if p a then some (f a) else none) :
    as.filterMap g = (as.filter p).map f := by
  rw [← List.filterMap_eq_map, List.filterMap_filter]
  exact List.filterMap_congr h

namespace Page

variable {p : Page}

-- Whether a page has a slug in the second language.
def isTranslated (p : Page) : Bool :=
  p.counterpart.slug.any (· != "")

-- The file of a page and the slug that leads to it.
def address? (p : Page) : Option (String × String) :=
  p.file.bind fun file => p.slug.map fun slug => (file, slug)

theorem slug?_counterpart (p : Page) :
    p.counterpart.slug? = if p.isTranslated then p.counterpart.slug else none := by
  unfold Counterpart.slug? isTranslated nonEmpty?
  cases p.counterpart.slug
  case none   => rfl
  case some s => by_cases hs : s = "" <;> simp [hs]

theorem file_eq_none (h : p.hasFile = false) : p.file = none :=
  Option.isSome_eq_false_iff.mp h |> Option.isNone_iff_eq_none.mp

end Page

section Lists

variable {p : Page} {pages : Outline Page}

theorem PageFile.names_ofPage? (w : p.WellFormed) :
    (ofPage? p).map (fun f => (some f.filename, some f.slug, some f.variableName)) =
      if p.hasFile then some (p.file, p.slug, p.variableName) else none := by
  cases h : p.hasFile
  case false => simp [ofPage?, Page.file_eq_none h]
  case true  =>
    have ⟨file, slug, name, hf, hs, hn⟩ := w.exists_names h
    simp [ofPage?, hf, hs, hn]

theorem PageFile.address_ofPage? (w : p.WellFormed) :
    (ofPage? p).map (fun f => (f.filename, f.slug)) = p.address? := by
  cases h : p.hasFile
  case false => simp [ofPage?, Page.address?, Page.file_eq_none h]
  case true  =>
    have ⟨file, slug, name, hf, hs, hn⟩ := w.exists_names h
    simp [ofPage?, Page.address?, hf, hs, hn]

theorem Route.names_ofPage? (w : p.WellFormed) :
    (ofPage? p).map (fun r => (some r.file, some r.primarySlug, some r.secondarySlug)) =
      if p.hasFile && p.isTranslated then some (p.file, p.slug, p.counterpart.slug) else none := by
  cases h : p.hasFile
  case false => simp [ofPage?, Page.file_eq_none h]
  case true  =>
    have ⟨file, slug, _, hf, hs, _⟩ := w.exists_names h
    cases ht : p.isTranslated
    case false => simp [ofPage?, hf, hs, p.slug?_counterpart, ht]
    case true  =>
      have ⟨s, hc, _⟩ := Option.any_eq_true .. |>.mp ht
      simp [ofPage?, hf, hs, p.slug?_counterpart, ht, hc]

theorem Route.address_ofPage? (p : Page) :
    (ofPage? p).map (fun r => (r.file, r.primarySlug)) =
      if p.isTranslated then p.address? else none := by
  cases ht : p.isTranslated
  case false =>
    cases hf : p.file <;> cases hs : p.slug <;> simp [ofPage?, hf, hs, p.slug?_counterpart, ht]
  case true  =>
    have ⟨s, hc, _⟩ := Option.any_eq_true .. |>.mp ht
    cases hf : p.file <;> cases hs : p.slug <;>
      simp [ofPage?, Page.address?, hf, hs, p.slug?_counterpart, ht, hc]

variable (w : ∀ p ∈ pages.entries, p.WellFormed)
include w

-- No page with a file is lost.
theorem map_pageFiles :
    (pageFiles pages).map (fun f => (some f.filename, some f.slug, some f.variableName)) =
      (pages.entries.filter (·.hasFile)).map fun p => (p.file, p.slug, p.variableName) := by
  rw [pageFiles_eq, List.map_filterMap]
  exact filterMap_eq_map_filter fun p hp => PageFile.names_ofPage? (w p hp)

theorem map_routes :
    (routes pages).map (fun r => (some r.file, some r.primarySlug, some r.secondarySlug)) =
      (pages.entries.filter fun p => p.hasFile && p.isTranslated).map fun p =>
        (p.file, p.slug, p.counterpart.slug) := by
  rw [routes_eq, List.map_filterMap]
  exact filterMap_eq_map_filter fun p hp => Route.names_ofPage? (w p hp)

theorem map_routes_sublist : ((routes pages).map fun r => (r.file, r.primarySlug)).Sublist
    ((pageFiles pages).map fun f => (f.filename, f.slug)) := by
  have hf : (pageFiles pages).map (fun f => (f.filename, f.slug)) =
      pages.entries.filterMap Page.address? := by
    rw [pageFiles_eq, List.map_filterMap]
    exact List.filterMap_congr fun p hp => PageFile.address_ofPage? (w p hp)
  have hr : (routes pages).map (fun r => (r.file, r.primarySlug)) =
      (pages.entries.filter (·.isTranslated)).filterMap Page.address? := by
    rw [routes_eq, List.map_filterMap, List.filterMap_filter]
    exact List.filterMap_congr fun p _ => Route.address_ofPage? p
  rw [hf, hr]
  exact List.filter_sublist.filterMap _

end Lists

namespace Manifest

variable {s : Settings} {content : String} {m : Menu}

theorem secondary_languagesOf : (languagesOf m s).secondary.isSome =
    (s.languages.secondary.isSome && m.hasSecondary) := by
  cases hm : m.hasSecondary <;> simp [languagesOf, hm]

-- Files, routes and dictionary speak of the same pages, in their order in the menu.
theorem build_lists_agree (h : Menu.parse s.parseOptions content = .ok m) :
    (build m s).files.map (fun f => (some f.filename, some f.slug, some f.variableName)) =
      (m.combined.entries.filter (·.hasFile)).map (fun p => (p.file, p.slug, p.variableName)) ∧
    ((build m s).routes.map fun r => (r.file, r.primarySlug)).Sublist
      ((build m s).files.map fun f => (f.filename, f.slug)) ∧
    (build m s).routes.map (fun r => (some r.file, some r.primarySlug, some r.secondarySlug)) =
      (if s.languages.secondary.isSome && (Section.split content)[1]?.isSome then
        (m.combined.entries.filter fun p => p.hasFile && p.isTranslated).map fun p =>
          (p.file, p.slug, p.counterpart.slug)
      else []) ∧
    (build m s).dictionary.map (·.key) = m.combined.entries.flatMap DictionaryEntry.keysOf := by
  have ⟨hr, _⟩ := Menu.parse_eq_ok_iff.mp h
  have w := hr.wellFormed_combined
  have hs : (languagesOf m s).secondary.isSome =
      (s.languages.secondary.isSome && (Section.split content)[1]?.isSome) := by
    rw [secondary_languagesOf, hr.hasSecondary_eq]
  refine ⟨map_pageFiles w, ?sublist, ?routes, map_key_dictionary ..⟩
  case sublist =>
    rw [build]
    split
    case isTrue  => exact map_routes_sublist w
    case isFalse => exact List.nil_sublist _
  case routes =>
    rw [← hs, build]
    split
    case isTrue hl  => exact map_routes w
    case isFalse hl => rfl

-- A page without a file, one without a translation and pages with both.
theorem build_lists_agree_translated :
    let s : Settings := { Settings.default with languages := ⟨"es", some "ca"⟩ }
    let content := "Inicio\n  Carta (SEO: La carta)\nVinos (**)\nBlog\n----------\n" ++
      "Inici\n  Menú del dia\nVins\n"
    ∃ m, Menu.parse s.parseOptions content = .ok m ∧
      (build m s).files.map (fun f => (some f.filename, some f.slug, some f.variableName)) =
        (m.combined.entries.filter (·.hasFile)).map (fun p => (p.file, p.slug, p.variableName)) ∧
      ((build m s).routes.map fun r => (r.file, r.primarySlug)).Sublist
        ((build m s).files.map fun f => (f.filename, f.slug)) ∧
      (build m s).routes.map (fun r => (some r.file, some r.primarySlug, some r.secondarySlug)) =
        (if s.languages.secondary.isSome && (Section.split content)[1]?.isSome then
          (m.combined.entries.filter fun p => p.hasFile && p.isTranslated).map fun p =>
            (p.file, p.slug, p.counterpart.slug)
        else []) ∧
      (build m s).dictionary.map (·.key) = m.combined.entries.flatMap DictionaryEntry.keysOf := by
  intro s content
  have ⟨m, h⟩ : ∃ m, Menu.parse s.parseOptions content = .ok m :=
    (Menu.exists_ofSections_iff rfl).mpr (by decide)
  exact ⟨m, h, build_lists_agree h⟩

end Manifest

end MenuOutline
