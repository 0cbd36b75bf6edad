import MenuOutline.Proofs.Menu.Parses
import MenuOutline.Proofs.Page.Spelling
import MenuOutline.Proofs.Pairing.Shape

namespace MenuOutline

theorem withCounterparts_map_unspelled (primary : Outline Page)
    (secondary : Option (Outline Page)) :
    withCounterparts (primary.map .unspelled) (secondary.map (·.map .unspelled)) =
      (withCounterparts primary secondary).map .unspelled := by
  have hs : (secondary.map (·.map Page.unspelled)).getD .nil =
      (secondary.getD .nil).map Page.unspelled := by
    cases secondary <;> rfl
  rw [withCounterparts, hs]
  refine Outline.pairWith_map fun p q => ?_
  cases q <;> rfl

namespace PageTree

variable {language language' : String} {maxDepth : Nat} {s : Section}

def unspelled (t : PageTree) : PageTree :=
  { t with pages := t.pages.map .unspelled }

theorem build_unspelled : (build language maxDepth s).map unspelled =
    (build language' maxDepth s).map unspelled := by
  have hp : Page.unspelled ∘ Item.page language = Page.unspelled ∘ Item.page language' :=
    funext fun _ => Item.unspelled_page
  rw [build_eq_ofItems, build_eq_ofItems, ofItems, ofItems]
  cases s.items.find? (maxDepth ≤ ·.level)
  case some i => rfl
  case none   => simp only [Except.map, unspelled, ofArranged, Outline.map_map, hp]

end PageTree

namespace Menu

variable {o : ParseOptions} {l : Languages} {sections : List Section} {m m' : Menu}

def unspelled (m : Menu) : Menu :=
  { m with
    primary   := m.primary.map .unspelled
    secondary := m.secondary.map (·.map .unspelled)
    combined  := m.combined.map .unspelled }

theorem ofTrees_unspelled (primary : PageTree) (secondary : Option PageTree) (ignored : Nat) :
    ofTrees primary.unspelled (secondary.map .unspelled) ignored =
      (ofTrees primary secondary ignored).unspelled := by
  have hc := withCounterparts_map_unspelled primary.pages (secondary.map (·.pages))
  have hm : MenuOutline.pairingMismatches (primary.pages.map .unspelled)
      ((secondary.map (·.pages)).map (·.map .unspelled)) = _ :=
    pairingMismatches_map fun _ => rfl
  cases secondary <;> simpa [ofTrees, unspelled, PageTree.unspelled] using ⟨hc, hm⟩

theorem checkPairing_unspelled (m : Menu) :
    checkPairing o m.unspelled = (checkPairing o m).map unspelled := by
  have hm : m.unspelled.pairingMismatches = m.pairingMismatches := rfl
  rw [checkPairing, checkPairing, hm]
  cases o.strictPairing <;> cases m.pairingMismatches <;> rfl

theorem buildTree_unspelled {language language' : String} {maxDepth : Nat} {s : Section} :
    (buildTree language maxDepth s).map PageTree.unspelled =
      (buildTree language' maxDepth s).map PageTree.unspelled := by
  have h (language : String) : (buildTree language maxDepth s).map PageTree.unspelled =
      ((PageTree.build language maxDepth s).map PageTree.unspelled).mapError .tooDeep := by
    rw [buildTree]
    cases PageTree.build language maxDepth s <;> rfl
  rw [h, h, PageTree.build_unspelled]

private theorem map_bind_congr {ε α α' β β' : Type} {f : α → α'} {g : β → β'} {x y : Except ε α}
    {k k' : α → Except ε β} (hx : x.map f = y.map f)
    (hk : ∀ a b, f a = f b → (k a).map g = (k' b).map g) :
    (x >>= k).map g = (y >>= k').map g := by
  cases x <;> cases y
  case error.error => exact congrArg Except.error (Except.error.inj hx)
  case ok.ok a b   => exact hk a b (Except.ok.inj hx)
  all_goals contradiction

theorem checkPairing_congr_of_unspelled_eq {l : Languages} (h : m.unspelled = m'.unspelled) :
    (checkPairing o m).map unspelled = (checkPairing { o with languages := l } m').map unspelled := by
  rw [← checkPairing_unspelled, ← checkPairing_unspelled, h]
  rfl

theorem ofSections_unspelled : (ofSections o sections).map unspelled =
    (ofSections { o with languages := l } sections).map unspelled := by
  match sections with
  | [] => rfl
  | [first] =>
    refine map_bind_congr buildTree_unspelled fun primary primary' hp => ?_
    refine checkPairing_congr_of_unspelled_eq ?_
    have ht := ofTrees_unspelled primary none 0
    have ht' := ofTrees_unspelled primary' none 0
    rw [← ht, ← ht', hp]
  | first :: second :: others =>
    refine map_bind_congr buildTree_unspelled fun primary primary' hp => ?_
    refine map_bind_congr buildTree_unspelled fun secondary secondary' hs => ?_
    refine checkPairing_congr_of_unspelled_eq ?_
    have ht := ofTrees_unspelled primary (some secondary) others.length
    have ht' := ofTrees_unspelled primary' (some secondary') others.length
    rw [← ht, ← ht', hp, Option.map_some, Option.map_some, hs]

end Menu

-- Pages that stand for the same lines, read in two languages. What is not said by the second section
-- is the same where no ampersand has to be read out.
structure Respelled (lines : Outline Item) (language language' : String) (t t' : Outline Page) :
    Prop where
  left  : t.map Page.alone = lines.map (Item.page language)
  right : t'.map Page.alone = lines.map (Item.page language')
  agree : ∀ path, ∀ i ∈ lines.get? path, '&' ∉ i.label →
    (t.get? path).map Page.alone = (t'.get? path).map Page.alone

theorem Respelled.of_pages {lines : Outline Item} {language language' : String}
    {t t' : Outline Page} (h : t.map Page.alone = lines.map (Item.page language))
    (h' : t'.map Page.alone = lines.map (Item.page language')) :
    Respelled lines language language' t t' where
  left  := h
  right := h'
  agree := by
    intro path i hi ha
    rw [← Outline.get?_map, ← Outline.get?_map, h, h', Outline.get?_map, Outline.get?_map, hi]
    exact congrArg some (Item.page_eq_of_ampersand_notMem ha)

namespace Menu

theorem map_alone_of_build {language : String} {maxDepth : Nat} {s : Section} {t : PageTree}
    (h : PageTree.build language maxDepth s = .ok t) :
    t.pages.map Page.alone = s.outline.map (Item.page language) := by
  have ha : Page.alone ∘ Item.page language = Item.page language :=
    funext fun i => Page.alone_ofLine (i.line language)
  rw [PageTree.pages_of_build h, Outline.map_map, ha]

-- The languages change nothing but the spelling, and that only for labels with an ampersand.
theorem parse_respelled (o : ParseOptions) (l : Languages) (content : String) :
    let o' : ParseOptions := { o with languages := l }
    (parse o content).map unspelled = (parse o' content).map unspelled ∧
    ∀ m m', parse o content = .ok m → parse o' content = .ok m' →
      (∃ s ∈ (Section.split content).head?,
        Respelled s.outline o.languages.primary o'.languages.primary m.primary m'.primary ∧
        Respelled s.outline o.languages.primary o'.languages.primary m.combined m'.combined) ∧
      ∀ t ∈ m.secondary, ∀ t' ∈ m'.secondary, ∃ s ∈ (Section.split content)[1]?,
        Respelled s.outline o.secondaryLanguage o'.secondaryLanguage t t' := by
  intro o'
  refine ⟨ofSections_unspelled, fun m m' h h' => ?_⟩
  have ⟨hr, _⟩  := parse_eq_ok_iff.mp h
  have ⟨hr', _⟩ := parse_eq_ok_iff.mp h'
  constructor
  case left =>
    have ⟨s, hs, t, hb, hp⟩ := hr.exists_first
    have ⟨s', hs', t', hb', hp'⟩ := hr'.exists_first
    cases Option.mem_unique hs hs'
    have ha : m.primary.map Page.alone = _ := hp ▸ map_alone_of_build hb
    have ha' : m'.primary.map Page.alone = _ := hp' ▸ map_alone_of_build hb'
    refine ⟨s, hs, .of_pages ha ha', .of_pages ?_ ?_⟩
    · rw [hr.combined_eq, map_alone_withCounterparts, ha]
    · rw [hr'.combined_eq, map_alone_withCounterparts, ha']
  case right =>
    intro pages hp pages' hp'
    have ⟨s, hs, t, hb, he⟩ := hr.exists_second pages hp
    have ⟨s', hs', t', hb', he'⟩ := hr'.exists_second pages' hp'
    cases Option.mem_unique hs hs'
    exact ⟨s, hs, .of_pages (he ▸ map_alone_of_build hb) (he' ▸ map_alone_of_build hb')⟩

-- Labels that are all ampersand, one that names the home page, and a page below it.
theorem parse_respelled_ampersands :
    let o : ParseOptions := ⟨⟨"es", some "ca"⟩, 3, false⟩
    let o' : ParseOptions := { o with languages := ⟨"de", none⟩ }
    let content := "Inicio\n  Té & Café (SEO: Carta)\n&\n----------\nInici\n  Tè & Cafè\n&&\n"
    ∃ m m', parse o content = .ok m ∧ parse o' content = .ok m' ∧
      (∃ s ∈ (Section.split content).head?,
        Respelled s.outline o.languages.primary o'.languages.primary m.primary m'.primary ∧
        Respelled s.outline o.languages.primary o'.languages.primary m.combined m'.combined) ∧
      ∀ t ∈ m.secondary, ∀ t' ∈ m'.secondary, ∃ s ∈ (Section.split content)[1]?,
        Respelled s.outline o.secondaryLanguage o'.secondaryLanguage t t' := by
  intro o o' content
  have ⟨m, h⟩   : ∃ m, parse o content = .ok m  := (exists_ofSections_iff rfl).mpr (by decide)
  have ⟨m', h'⟩ : ∃ m, parse o' content = .ok m := (exists_ofSections_iff rfl).mpr (by decide)
  exact ⟨m, m', h, h', (parse_respelled o ⟨"de", none⟩ content).right m m' h h'⟩

end Menu

end MenuOutline
