import MenuOutline.Proofs.Menu.Parses
import MenuOutline.Proofs.Pairing.Shape

namespace MenuOutline.Menu

variable {o : ParseOptions} {sections : List Section} {content : String} {m : Menu}

theorem checkPairing_lenient : checkPairing { o with strictPairing := false } m = .ok m :=
  checkPairing_eq_ok_iff.mpr ⟨rfl, nofun⟩

-- The pairing of a menu is checked last, and no other error depends on whether it is.
theorem ofSections_eq_bind : ofSections o sections =
    ofSections { o with strictPairing := false } sections >>= checkPairing o := by
  match sections with
  | [] => rfl
  | [first] =>
    rw [ofSections, ofSections, bind_assoc]
    refine bind_congr fun primary => ?_
    rw [checkPairing_lenient]
    rfl
  | first :: second :: others =>
    rw [ofSections, ofSections, bind_assoc]
    refine bind_congr fun primary => ?_
    rw [bind_assoc]
    refine bind_congr fun secondary => ?_
    rw [checkPairing_lenient]
    rfl

theorem parse_eq_bind :
    parse o content = parse { o with strictPairing := false } content >>= checkPairing o :=
  ofSections_eq_bind

theorem Parses.pairingMismatches_eq_nil_iff (h : Parses o sections m) :
    m.pairingMismatches = [] ↔
      sections[1]? = none ∨ ∃ t ∈ m.secondary, m.primary.shape = t.shape := by
  cases h
  case one => exact iff_of_true rfl (.inl rfl)
  case two => simp [ofTrees, MenuOutline.pairingMismatches_eq_nil_iff]

-- Where mismatches are errors, a menu is read as if they were not, and is then refused for the first
-- of them. So it is accepted exactly if its sections line up.
theorem parse_strict (o : ParseOptions) (content : String) :
    let lenient := parse { o with strictPairing := false } content
    let strict := parse { o with strictPairing := true } content
    (∀ e, lenient = .error e → strict = .error e) ∧
    (∀ m, lenient = .ok m → m.pairingMismatches = [] → strict = .ok m) ∧
    (∀ m mismatch others, lenient = .ok m → m.pairingMismatches = mismatch :: others →
      strict = .error (.pairingMismatch mismatch)) ∧
    ∀ m, strict = .ok m ↔ lenient = .ok m ∧ ((Section.split content)[1]? = none ∨
      ∃ t ∈ m.secondary, m.primary.shape = t.shape) := by
  intro lenient strict
  have hs : strict = lenient >>= checkPairing { o with strictPairing := true } := parse_eq_bind
  refine ⟨fun e h => ?error, fun m h hm => ?paired, fun m mismatch others h hm => ?mismatched,
    fun m => ?accepted⟩
  case error =>
    rw [hs, h]
    rfl
  case paired =>
    rw [hs, h]
    exact checkPairing_eq_ok_iff.mpr ⟨rfl, fun _ => hm⟩
  case mismatched =>
    rw [hs, h]
    show checkPairing _ m = _
    rw [checkPairing, hm]
  case accepted =>
    have hp : strict = .ok m ↔ lenient = .ok m ∧ m.pairingMismatches = [] := by
      rw [hs, bind_eq_ok_iff]
      simp [checkPairing_eq_ok_iff]
    rw [hp]
    refine and_congr_right fun h => ?_
    exact (parse_eq_ok_iff.mp h).left.pairingMismatches_eq_nil_iff

-- A menu that is too deep, one without mismatches, and one with a mismatch at the top and another
-- one below it.
theorem parse_strict_uneven :
    let o : ParseOptions := ⟨⟨"es", some "ca"⟩, 2, false⟩
    let strict := parse { o with strictPairing := true }
    let deep := "Inicio\n----------\nInici\n  Carta\n    Vins\n"
    let even := "Inicio\n  Carta\n----------\nInici\n  Menú\n"
    let uneven := "Inicio\n  Carta\nBlog\n----------\nInici\n"
    (parse o deep = .error (.tooDeep ⟨5, 2, 2⟩) ∧ strict deep = .error (.tooDeep ⟨5, 2, 2⟩)) ∧
      (∃ m, parse o even = .ok m ∧ m.pairingMismatches = [] ∧ strict even = .ok m) ∧
      ∃ m, parse o uneven = .ok m ∧ m.pairingMismatches = [⟨none, 2, 1⟩, ⟨some "Inicio", 1, 0⟩] ∧
        strict uneven = .error (.pairingMismatch ⟨none, 2, 1⟩) := by
  intro o strict deep even uneven
  refine ⟨?_, ?_, ?_⟩
  · have h : parse o deep = .error (.tooDeep ⟨5, 2, 2⟩) := by decide +kernel
    exact ⟨h, (parse_strict o deep).left _ h⟩
  · have hm : (parse o even).map (·.pairingMismatches) = .ok [] := by decide +kernel
    have ⟨m, h, hm⟩ := map_eq_ok_iff.mp hm
    exact ⟨m, h, hm, (parse_strict o even).right.left m h hm⟩
  · have hm : (parse o uneven).map (·.pairingMismatches) =
        .ok [⟨none, 2, 1⟩, ⟨some "Inicio", 1, 0⟩] := by decide +kernel
    have ⟨m, h, hm⟩ := map_eq_ok_iff.mp hm
    exact ⟨m, h, hm, (parse_strict o uneven).right.right.left m _ _ h hm⟩

end MenuOutline.Menu
