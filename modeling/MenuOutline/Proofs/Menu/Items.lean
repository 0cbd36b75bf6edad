import MenuOutline.Menu
import MenuOutline.Proofs.PageTree.Items

namespace MenuOutline

def MenuError.renumber (f : Nat → Nat) : MenuError → MenuError
  | emptyMenu         => emptyMenu
  | tooDeep fault     => tooDeep (fault.renumber f)
  | pairingMismatch m => pairingMismatch m

namespace Menu

variable {o : ParseOptions} {language : String} {maxDepth : Nat} {f : Nat → Nat} {s s' : Section}
  {sections sections' : List Section}

def renumber (f : Nat → Nat) (m : Menu) : Menu :=
  { m with droppedLines := m.droppedLines.map f }

-- A menu or an error with other line numbers.
def renumberOutcome (f : Nat → Nat) (outcome : Except MenuError Menu) : Except MenuError Menu :=
  (outcome.map (renumber f)).mapError (.renumber f)

theorem ofTrees_renumber (primary : PageTree) (secondary : Option PageTree) (ignored : Nat) :
    ofTrees (primary.renumber f) (secondary.map (.renumber f)) ignored =
      (ofTrees primary secondary ignored).renumber f := by
  cases secondary <;> simp [ofTrees, renumber, PageTree.renumber]

theorem checkPairing_renumber (m : Menu) :
    checkPairing o (m.renumber f) = renumberOutcome f (checkPairing o m) := by
  have hm : (m.renumber f).pairingMismatches = m.pairingMismatches := rfl
  rw [checkPairing, checkPairing, hm]
  cases o.strictPairing <;> cases m.pairingMismatches <;> rfl

theorem buildTree_renumber (h : s'.items = s.items.map (.renumber f)) :
    buildTree language maxDepth s' =
      ((buildTree language maxDepth s).map (.renumber f)).mapError (.renumber f) := by
  rw [buildTree, buildTree, PageTree.build_eq_ofItems, PageTree.build_eq_ofItems, h,
    PageTree.ofItems_renumber]
  cases PageTree.ofItems language maxDepth s.items <;> rfl

-- A menu depends on the items of its sections alone, and has no use for their numbers but to tell
-- them.
theorem ofSections_renumber
    (h : sections'.map Section.items = sections.map (·.items.map (.renumber f))) :
    ofSections o sections' = renumberOutcome f (ofSections o sections) := by
  match sections, sections' with
  | [], [] => rfl
  | [_], _ :: _ :: _ | _ :: _ :: _, [_] => simp at h
  | [first], [first'] =>
    have ⟨hf, _⟩ := List.cons.inj h
    simp only [ofSections, buildTree_renumber hf]
    cases buildTree o.languages.primary o.maxDepth first
    case error e    => rfl
    case ok primary =>
      have ht := ofTrees_renumber (f := f) primary none 0
      exact (congrArg (checkPairing o) ht).trans (checkPairing_renumber _)
  | first :: second :: others, first' :: second' :: others' =>
    have ⟨hf, h⟩ := List.cons.inj h
    have ⟨hs, h⟩ := List.cons.inj h
    have hl : others'.length = others.length := by simpa using congrArg List.length h
    simp only [ofSections, buildTree_renumber hf, buildTree_renumber hs, hl]
    cases buildTree o.languages.primary o.maxDepth first
    case error e    => rfl
    case ok primary =>
      cases buildTree o.secondaryLanguage o.maxDepth second
      case error e      => rfl
      case ok secondary =>
        have ht := ofTrees_renumber (f := f) primary (some secondary) others.length
        exact (congrArg (checkPairing o) ht).trans (checkPairing_renumber _)

end Menu

end MenuOutline
