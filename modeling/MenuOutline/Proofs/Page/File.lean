import MenuOutline.Proofs.Page.WellFormed

namespace MenuOutline

namespace Page

variable {p q : Page} {s : String}

-- The home page, or a page whose slug makes it one wherever it stands.
def IsHomePage (p : Page) : Prop :=
  p.isHome ∨ ∃ s ∈ p.slug, s ∈ ["inicio", "home", "index"]

instance : DecidablePred IsHomePage :=
  fun p => inferInstanceAs (Decidable (p.isHome ∨ ∃ s ∈ p.slug, s ∈ ["inicio", "home", "index"]))

-- Whether a page is written to the file of the home page: it is the home page, or its slug happens
-- to give its own file that name.
def OnHomeFile (p : Page) : Prop :=
  p.IsHomePage ∨ p.slug = some "web"

namespace WellFormed

theorem file_eq_some (w : p.WellFormed) (h : p.hasFile) (hs : p.slug = some s) :
    p.file = some (if p.IsHomePage then "web.php" else s ++ ".php") := by
  have ⟨f, hf⟩ := Option.isSome_iff_exists.mp h
  have hh : p.IsHomePage ↔ p.isHome ∨ s ∈ ["inicio", "home", "index"] := by
    simp [IsHomePage, hs]
  rw [hf, w.file_eq f hf s hs]
  exact congrArg some (if_congr hh.symm rfl rfl)

theorem file_of_isHomePage (w : p.WellFormed) (h : p.hasFile) (hh : p.IsHomePage) :
    p.file = some "web.php" := by
  have ⟨_, s, _, _, hs, _⟩ := w.exists_names h
  rw [w.file_eq_some h hs, if_pos hh]

theorem file_of_not_isHomePage (w : p.WellFormed) (h : p.hasFile) (hh : ¬p.IsHomePage) :
    p.file = p.slug.map (· ++ ".php") := by
  have ⟨_, s, _, _, hs, _⟩ := w.exists_names h
  rw [w.file_eq_some h hs, if_neg hh, hs, Option.map_some]

theorem file_eq_home_iff (w : p.WellFormed) (h : p.hasFile) :
    p.file = some "web.php" ↔ p.OnHomeFile := by
  by_cases hh : p.IsHomePage
  case pos => exact iff_of_true (w.file_of_isHomePage h hh) (.inl hh)
  case neg =>
    have ⟨_, s, _, _, hs, _⟩ := w.exists_names h
    have he : s ++ ".php" = "web" ++ ".php" ↔ s = "web" := String.append_left_inj _
    rw [w.file_of_not_isHomePage h hh, OnHomeFile, or_iff_right hh, hs, Option.map_some,
      Option.some.injEq, Option.some.injEq]
    exact he

-- Apart from the file of the home page a file tells its slug.
theorem file_eq_iff (w : p.WellFormed) (v : q.WellFormed) (hp : p.hasFile) (hq : q.hasFile) :
    p.file = q.file ↔
      (p.slug = q.slug ∧ (p.IsHomePage ↔ q.IsHomePage)) ∨ (p.OnHomeFile ∧ q.OnHomeFile) := by
  constructor
  case mp =>
    intro h
    by_cases hf : p.file = some "web.php"
    case pos => exact .inr ⟨(w.file_eq_home_iff hp).mp hf, (v.file_eq_home_iff hq).mp (h ▸ hf)⟩
    case neg =>
      have hhp : ¬p.IsHomePage := mt (w.file_of_isHomePage hp) hf
      have hhq : ¬q.IsHomePage := mt (v.file_of_isHomePage hq) (h ▸ hf)
      rw [w.file_of_not_isHomePage hp hhp, v.file_of_not_isHomePage hq hhq] at h
      have hi : Function.Injective (· ++ ".php") := fun _ _ => (String.append_left_inj _).mp
      exact .inl ⟨Option.map_injective hi h, iff_of_false hhp hhq⟩
  case mpr =>
    rintro (⟨hs, hh⟩ | ⟨hop, hoq⟩)
    case inl =>
      by_cases hhp : p.IsHomePage
      case pos => rw [w.file_of_isHomePage hp hhp, v.file_of_isHomePage hq (hh.mp hhp)]
      case neg =>
        have hhq := mt hh.mpr hhp
        rw [w.file_of_not_isHomePage hp hhp, v.file_of_not_isHomePage hq hhq, hs]
    case inr => rw [(w.file_eq_home_iff hp).mpr hop, (v.file_eq_home_iff hq).mpr hoq]

end WellFormed

end Page

namespace Menu

variable {o : ParseOptions} {content : String} {m : Menu}

-- Pages share a file if they have one slug and none or both of them are home pages, or if they take
-- the file of the home page. That may be a page which is not the home page but called Web.
theorem file_eq_iff_of_parse (h : parse o content = .ok m) :
    ∀ p ∈ m.combined.entries, ∀ q ∈ m.combined.entries, p.hasFile → q.hasFile →
      (p.file = q.file ↔
        (p.slug = q.slug ∧ (p.IsHomePage ↔ q.IsHomePage)) ∨ (p.OnHomeFile ∧ q.OnHomeFile)) := by
  have ⟨hr, _⟩ := parse_eq_ok_iff.mp h
  have w := hr.wellFormed_combined
  exact fun p hp q hq hfp hfq => (w p hp).file_eq_iff (w q hq) hfp hfq

-- The home page and a page called Web are written to one file.
theorem file_eq_iff_of_parse_web :
    let o : ParseOptions := ⟨⟨"es", none⟩, 3, false⟩
    ∃ m, parse o "Inicio\nWeb\n" = .ok m ∧
      ∃ p ∈ m.combined.entries, ∃ q ∈ m.combined.entries, p.hasFile ∧ q.hasFile ∧
        p.file = q.file ∧ p.slug ≠ q.slug ∧ p.IsHomePage ∧ ¬q.IsHomePage := by
  intro o
  have hm : ∃ m ∈ (parse o "Inicio\nWeb\n").toOption,
      ∃ p ∈ m.combined.entries, ∃ q ∈ m.combined.entries, p.hasFile ∧ q.hasFile ∧
        p.slug = some "inicio" ∧ q.slug = some "web" ∧ p.IsHomePage ∧ ¬q.IsHomePage := by
    decide +kernel
  have ⟨m, hm, p, hp, q, hq, hfp, hfq, hps, hqs, hhp, hhq⟩ := hm
  have h := mem_toOption_parse.mp hm
  have he : p.file = q.file := (file_eq_iff_of_parse h p hp q hq hfp hfq).mpr <|
    .inr ⟨.inl hhp, .inr hqs⟩
  exact ⟨m, h, p, hp, q, hq, hfp, hfq, he, by simp [hps, hqs], hhp, hhq⟩

end Menu

end MenuOutline
