import MenuOutline.Menu
import MenuOutline.Proofs.Except
import MenuOutline.Proofs.PageTree.Records

namespace MenuOutline.Menu

variable {o : ParseOptions} {s : Section} {sections : List Section} {m : Menu} {t : PageTree}
  {language : String} {maxDepth : Nat}

-- How a menu comes from the page trees of its sections.
inductive Parses (o : ParseOptions) : List Section → Menu → Prop
  | one {first primary} :
    (PageTree.build o.languages.primary o.maxDepth first = .ok primary) →
    Parses o [first] (ofTrees primary none 0)
  | two {first second others primary secondary} :
    (PageTree.build o.languages.primary o.maxDepth first = .ok primary) →
    (PageTree.build o.secondaryLanguage o.maxDepth second = .ok secondary) →
    Parses o (first :: second :: others) (ofTrees primary (some secondary) others.length)

theorem buildTree_eq_ok_iff :
    buildTree language maxDepth s = .ok t ↔ PageTree.build language maxDepth s = .ok t := by
  unfold buildTree
  cases PageTree.build language maxDepth s <;> simp [Except.mapError]

theorem checkPairing_eq_ok_iff {m' : Menu} : checkPairing o m = .ok m' ↔
    m = m' ∧ (o.strictPairing → m.pairingMismatches = []) := by
  unfold checkPairing
  cases o.strictPairing <;> cases m.pairingMismatches <;> simp

theorem checkPairing_ne_error {e : MenuError} (he : ∀ mismatch, e ≠ .pairingMismatch mismatch) :
    checkPairing o m ≠ .error e := by
  unfold checkPairing
  split
  case h_1 mismatch _ _ _ => exact fun h => he mismatch (Except.error.inj h).symm
  case h_2 => nofun

theorem ofSections_eq_ok_iff : ofSections o sections = .ok m ↔
    Parses o sections m ∧ (o.strictPairing → m.pairingMismatches = []) := by
  constructor
  case mp =>
    intro h
    match sections with
    | [] => cases h
    | [first] =>
      have ⟨primary, hp, h⟩ := bind_eq_ok_iff.mp h
      have ⟨hm, hs⟩ := checkPairing_eq_ok_iff.mp h
      exact hm ▸ ⟨.one <| buildTree_eq_ok_iff.mp hp, hs⟩
    | first :: second :: others =>
      have ⟨primary, hp, h⟩ := bind_eq_ok_iff.mp h
      have ⟨secondary, hq, h⟩ := bind_eq_ok_iff.mp h
      have ⟨hm, hs⟩ := checkPairing_eq_ok_iff.mp h
      exact hm ▸ ⟨.two (buildTree_eq_ok_iff.mp hp) (buildTree_eq_ok_iff.mp hq), hs⟩
  case mpr =>
    intro ⟨h, hs⟩
    cases h
    case one primary hp =>
      exact bind_eq_ok_iff.mpr
        ⟨primary, buildTree_eq_ok_iff.mpr hp, checkPairing_eq_ok_iff.mpr ⟨rfl, hs⟩⟩
    case two primary secondary hp hq =>
      exact bind_eq_ok_iff.mpr ⟨primary, buildTree_eq_ok_iff.mpr hp, bind_eq_ok_iff.mpr
        ⟨secondary, buildTree_eq_ok_iff.mpr hq, checkPairing_eq_ok_iff.mpr ⟨rfl, hs⟩⟩⟩

theorem parse_eq_ok_iff {content : String} : parse o content = .ok m ↔
    Parses o (Section.split content) m ∧ (o.strictPairing → m.pairingMismatches = []) :=
  ofSections_eq_ok_iff

theorem mem_toOption_parse {content : String} :
    m ∈ (parse o content).toOption ↔ parse o content = .ok m := by
  cases parse o content <;> simp [Except.toOption]

-- The trees behind a menu.
theorem Parses.exists_trees (h : Parses o sections m) :
    ∃ primary secondary ignored, m = ofTrees primary secondary ignored ∧
      (∃ s, PageTree.build o.languages.primary o.maxDepth s = .ok primary) ∧
      (∀ t ∈ secondary, ∃ s, PageTree.build o.secondaryLanguage o.maxDepth s = .ok t) := by
  cases h
  case one primary hp => exact ⟨_, _, _, rfl, ⟨_, hp⟩, nofun⟩
  case two primary secondary hp hq =>
    exact ⟨_, _, _, rfl, ⟨_, hp⟩, fun t ht => ⟨_, Option.some.inj ht ▸ hq⟩⟩

theorem Parses.exists_first (h : Parses o sections m) : ∃ s ∈ sections.head?,
    ∃ t, PageTree.build o.languages.primary o.maxDepth s = .ok t ∧ m.primary = t.pages := by
  cases h
  case one hp   => exact ⟨_, rfl, _, hp, rfl⟩
  case two hp _ => exact ⟨_, rfl, _, hp, rfl⟩

theorem Parses.exists_second (h : Parses o sections m) : ∀ pages ∈ m.secondary,
    ∃ s ∈ sections[1]?, ∃ t, PageTree.build o.secondaryLanguage o.maxDepth s = .ok t ∧
      pages = t.pages := by
  cases h
  case one => exact nofun
  case two hq => exact fun pages h => ⟨_, rfl, _, hq, (Option.some.inj h).symm⟩

theorem Parses.hasSecondary_eq (h : Parses o sections m) :
    m.hasSecondary = sections[1]?.isSome := by
  cases h <;> rfl

theorem Parses.combined_eq (h : Parses o sections m) :
    m.combined = withCounterparts m.primary m.secondary := by
  cases h <;> rfl

-- Where mismatches are no errors, only depth and emptiness can stop a menu.
theorem exists_ofSections_iff (ho : o.strictPairing = false) :
    (∃ m, ofSections o sections = .ok m) ↔
      sections ≠ [] ∧ ∀ s ∈ sections.take 2, ∀ source ∈ s,
        Line.isIdle source.text = false → Line.indentation source.text < o.maxDepth := by
  simp only [ofSections_eq_ok_iff, ho]
  constructor
  case mp =>
    intro ⟨m, h, _⟩
    cases h
    case one primary hp _ => exact ⟨nofun, by simpa using (PageTree.exists_build_iff _).mp ⟨_, hp⟩⟩
    case two primary secondary hp hq _ =>
      have hp := (PageTree.exists_build_iff _).mp ⟨_, hp⟩
      have hq := (PageTree.exists_build_iff _).mp ⟨_, hq⟩
      exact ⟨nofun, by simpa using ⟨hp, hq⟩⟩
  case mpr =>
    intro ⟨hn, h⟩
    match sections with
    | [] => contradiction
    | [first] =>
      have ⟨primary, hp⟩ := (PageTree.exists_build_iff o.languages.primary).mpr <| h first (.head _)
      exact ⟨_, .one hp, nofun⟩
    | first :: second :: others =>
      have ⟨primary, hp⟩ := (PageTree.exists_build_iff o.languages.primary).mpr <| h first (.head _)
      have ⟨secondary, hq⟩ :=
        (PageTree.exists_build_iff o.secondaryLanguage).mpr <| h second (.tail _ <| .head _)
      exact ⟨_, .two hp hq, nofun⟩

end MenuOutline.Menu
