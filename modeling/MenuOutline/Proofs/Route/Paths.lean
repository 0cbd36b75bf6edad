import MenuOutline.Proofs.Manifest.Links
import MenuOutline.Proofs.Route.Table

namespace MenuOutline

theorem Languages.isCode_of_check {l : Languages} {code : String} (h : l.check = .ok ())
    (hl : l.secondary = some code) : isCode code := by
  by_cases hc : isCode code
  case pos => exact hc
  case neg =>
    have hn : (!isCode code) = true := by simp [hc]
    simp only [check, hl, if_pos hn] at h
    split at h <;> contradiction

theorem Languages.slash_notMem_of_isCode {code : String} (h : isCode code) :
    code ≠ "" ∧ '/' ∉ code.toList := by
  simp only [isCode, Bool.and_eq_true, List.all_eq_true] at h
  have ⟨⟨hn, _⟩, hc⟩ := h
  refine ⟨?_, fun hm => ?_⟩
  · rintro rfl
    simp at hn
  · have hs := hc _ hm
    contradiction

theorem Slug.slash_notMem_of_isValid {slug : String} (h : isValid slug) :
    slug ≠ "" ∧ '/' ∉ slug.toList := by
  refine ⟨?_, fun hm => ?_⟩
  · rintro rfl
    contradiction
  · have hs : isSlugChar '/' ∨ '/' = '-' := isSlugChar_or_eq_hyphen h _ hm
    simp [isSlugChar] at hs

namespace Route

variable {l : Languages} {code : String} {routes : List Route}

-- The paths that a table leads to.
def Row.pathsOf (rows : List Row) : List String :=
  rows.flatMap fun row => row.paths.map Prod.snd

theorem slash_mem_append (code slug : String) : '/' ∈ (code ++ "/" ++ slug).toList := by
  simp

theorem nodup_pathsOf_home (hl : l.secondary = none) : (Row.pathsOf [.home l]).Nodup := by
  simp [Row.pathsOf, Row.home, rootPaths, pathsIn, hl]

-- All paths start at the root. What follows tells the roots and the pages of the languages apart.
theorem pathsOf_perm (hl : l.secondary = some code) (hf : ∀ r ∈ routes, r.file ≠ "web.php") :
    (Row.pathsOf (.home l :: routes.map (.ofRoute l))).Perm
      (("" :: code :: (routes.map (·.primarySlug) ++
        routes.map (code ++ "/" ++ ·.secondarySlug))).map ("/" ++ ·)) := by
  have hr : ∀ r ∈ routes, (Row.ofRoute l r).paths.map Prod.snd =
      ["/" ++ r.primarySlug] ++ ["/" ++ (code ++ "/" ++ r.secondarySlug)] := by
    intro r hr
    have hn := hf r hr
    simp [Row.ofRoute, hn, slugPaths, pathsIn, hl, String.append_assoc]
  have hh : (Row.home l).paths.map Prod.snd = ["/" ++ "", "/" ++ code] := by
    simp [Row.home, rootPaths, pathsIn, hl]
  rw [Row.pathsOf, List.flatMap_cons, List.flatMap_map, hh, List.flatMap_congr hr]
  have ht := List.flatMap_append_perm routes (fun r => ["/" ++ r.primarySlug]) fun r =>
    ["/" ++ (code ++ "/" ++ r.secondarySlug)]
  rw [← List.map_eq_flatMap, ← List.map_eq_flatMap] at ht
  have hm := (ht.symm.cons ("/" ++ code)).cons ("/" ++ "")
  simpa [Function.comp_def, String.append_assoc] using hm

theorem nodup_pathsOf_iff (hl : l.secondary = some code) (hc : Languages.isCode code)
    (hv : ∀ r ∈ routes, Slug.isValid r.primarySlug) (hp : (routes.map (·.primarySlug)).Nodup)
    (hs : (routes.map (·.secondarySlug)).Nodup) (hf : ∀ r ∈ routes, r.file ≠ "web.php") :
    (Row.pathsOf (.home l :: routes.map (.ofRoute l))).Nodup ↔
      ∀ r ∈ routes, r.primarySlug ≠ code := by
  have hi : Function.Injective ("/" ++ ·) := fun _ _ => (String.append_right_inj _).mp
  rw [(pathsOf_perm hl hf).nodup_iff, List.nodup_map_iff hi]
  have ⟨hcn, hcs⟩ := Languages.slash_notMem_of_isCode hc
  have hr : ∀ p ∈ routes.map (·.primarySlug), p ≠ "" ∧ '/' ∉ p.toList :=
    List.forall_mem_map.mpr fun r hr => Slug.slash_notMem_of_isValid (hv r hr)
  have hq : ∀ p ∈ routes.map (code ++ "/" ++ ·.secondarySlug), '/' ∈ p.toList :=
    List.forall_mem_map.mpr fun r _ => slash_mem_append code r.secondarySlug
  have he : "" ∉ code :: (routes.map (·.primarySlug) ++
      routes.map (code ++ "/" ++ ·.secondarySlug)) := by
    intro hm
    rw [List.mem_cons, List.mem_append] at hm
    obtain hm | hm | hm := hm
    · exact hcn hm.symm
    · exact (hr _ hm).left rfl
    · exact absurd (hq _ hm) List.not_mem_nil
  have hn : (routes.map (·.primarySlug) ++ routes.map (code ++ "/" ++ ·.secondarySlug)).Nodup := by
    have hi : Function.Injective (code ++ "/" ++ ·) := fun _ _ => (String.append_right_inj _).mp
    have hs := hs.map hi
    rw [List.map_map] at hs
    exact hp.append hs fun p hp hp' => (hr p hp).right (hq p hp')
  have hm : code ∈ routes.map (·.primarySlug) ++ routes.map (code ++ "/" ++ ·.secondarySlug) ↔
      ∃ r ∈ routes, r.primarySlug = code := by
    rw [List.mem_append, or_iff_left fun hm => hcs (hq _ hm), List.mem_map]
  rw [List.nodup_cons, List.nodup_cons, and_iff_right he, and_iff_left hn, hm]
  simp only [not_exists, not_and, ne_eq]

end Route

namespace Manifest

variable {s : Settings} {content code : String} {m : Menu}

-- A menu with one section has no second language, and so no routes.
theorem routes_build_of_one (h : m.hasSecondary = false) :
    (build m s).routes = [] ∧ (build m s).languages.secondary = none := by
  simp [build, languagesOf, h]

theorem routes_build_of_two (h : m.hasSecondary) (hl : s.languages.secondary = some code) :
    (build m s).routes = MenuOutline.routes m.combined ∧
      (build m s).languages.secondary = some code := by
  simp [build, languagesOf, h, hl]

-- With different slugs in either language and no second home page, two paths of the route file are
-- the same exactly where a slug is the code of the second language.
theorem nodup_paths_iff (hs : s.check = .ok ()) (hl : s.languages.secondary = some code)
    (h : Menu.parse s.parseOptions content = .ok m)
    (hp : ((build m s).routes.map (·.primarySlug)).Nodup)
    (hq : ((build m s).routes.map (·.secondarySlug)).Nodup)
    (hf : ∀ r ∈ (build m s).routes, r.file ≠ "web.php") :
    ∃ rows, Route.readFile? (routeFile (build m s).languages (build m s).routes) = some rows ∧
      ((Route.Row.pathsOf rows).Nodup ↔ ∀ r ∈ (build m s).routes, r.primarySlug ≠ code) := by
  refine ⟨_, Route.readFile?_routeFile .., ?_⟩
  have ⟨hm, _⟩ := Menu.parse_eq_ok_iff.mp h
  have w := hm.wellFormed_combined
  cases hm : m.hasSecondary
  case false =>
    have ⟨hr, hl⟩ := routes_build_of_one (s := s) hm
    rw [hr]
    exact iff_of_true (Route.nodup_pathsOf_home hl) nofun
  case true =>
    have hc := Languages.isCode_of_check (Settings.check_languages hs) hl
    have ⟨hr, hl⟩ := routes_build_of_two hm hl
    have hv : ∀ r ∈ (build m s).routes, Slug.isValid r.primarySlug := by
      intro r hm
      have ⟨p, hp, _, hs⟩ := Route.exists_page_of_mem (hr ▸ hm)
      exact (w p hp).slug_valid _ hs
    exact Route.nodup_pathsOf_iff hl hc hv hp hq hf

-- Three files, of which one is below another, in two languages.
theorem nodup_paths_iff_carta :
    let s : Settings := { Settings.default with languages := ⟨"es", some "ca"⟩ }
    let content := "Carta\n  Vinos\nTienda\n----------\nMenjar\n  Vins\nBotiga\n"
    ∃ m rows, s.check = .ok () ∧ Menu.parse s.parseOptions content = .ok m ∧
      Route.readFile? (routeFile (build m s).languages (build m s).routes) = some rows ∧
      (build m s).routes.length = 3 ∧ (Route.Row.pathsOf rows).Nodup := by
  intro s content
  have hs : s.check = .ok () := by decide
  have ⟨m, hm, hn, hp, hq, hf, hc⟩ : ∃ m ∈ (Menu.parse s.parseOptions content).toOption,
      (build m s).routes.length = 3 ∧
      ((build m s).routes.map (·.primarySlug)).Nodup ∧
      ((build m s).routes.map (·.secondarySlug)).Nodup ∧
      (∀ r ∈ (build m s).routes, r.file ≠ "web.php") ∧
      ∀ r ∈ (build m s).routes, r.primarySlug ≠ "ca" := by
    decide +kernel
  have h := Menu.mem_toOption_parse.mp hm
  have ⟨rows, hr, hi⟩ := nodup_paths_iff hs rfl h hp hq hf
  exact ⟨m, rows, hs, h, hr, hn, hi.mpr hc⟩

-- No slug is kept for a language: a page "Ca" is reached at the root of a second language "ca".
theorem not_nodup_paths_ca :
    let s : Settings := { Settings.default with languages := ⟨"es", some "ca"⟩ }
    s.check = .ok () ∧
    ∃ m ∈ (Menu.parse s.parseOptions "Ca\nTienda\n----------\nInici\nBotiga\n").toOption,
      ((build m s).routes.map (·.primarySlug)).Nodup ∧
      ((build m s).routes.map (·.secondarySlug)).Nodup ∧
      (∀ r ∈ (build m s).routes, r.file ≠ "web.php") ∧
      ∃ rows ∈ Route.readFile? (routeFile (build m s).languages (build m s).routes),
        ¬(Route.Row.pathsOf rows).Nodup := by
  intro s
  have ⟨m, hm, hp, hq, hf, hn⟩ :
      ∃ m ∈ (Menu.parse s.parseOptions "Ca\nTienda\n----------\nInici\nBotiga\n").toOption,
        ((build m s).routes.map (·.primarySlug)).Nodup ∧
        ((build m s).routes.map (·.secondarySlug)).Nodup ∧
        (∀ r ∈ (build m s).routes, r.file ≠ "web.php") ∧
        ¬(Route.Row.pathsOf (.home (build m s).languages ::
          (build m s).routes.map (.ofRoute (build m s).languages))).Nodup := by
    decide +kernel
  have hr := Route.readFile?_routeFile (build m s).languages (build m s).routes
  exact ⟨by decide, m, hm, hp, hq, hf, _, hr, hn⟩

end Manifest

end MenuOutline
