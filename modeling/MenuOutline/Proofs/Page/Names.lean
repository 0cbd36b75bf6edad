import MenuOutline.Page
import MenuOutline.Proofs.Text.Equivalence

-- The names made of a label: its slug with the variable and the file, its key and the folders. They
-- are the same for all ways to write the label, composed or in parts.

namespace MenuOutline

namespace Text

theorem Equivalent.withoutDiacritics_eq {cs ds : List Char} (h : Equivalent cs ds) :
    withoutDiacritics cs = withoutDiacritics ds := by
  rw [withoutDiacritics, h.decompose_eq, withoutDiacritics]

-- A text in its normal form: decomposed, and its marks in order.
def normal (s : String) : String :=
  .ofList (decompose s.toList)

theorem equivalent_normal (s : String) : Equivalent (normal s).toList s.toList := by
  simpa [normal] using (equivalent_decompose s.toList).symm

end Text

variable {language label label' : String}

theorem Slug.ofText_eq_of_equivalent (h : Text.Equivalent label.toList label'.toList) :
    ofText language label = ofText language label' := by
  rw [ofText, h.withoutDiacritics_eq, ofText]

theorem dictionaryKey_eq_of_equivalent (h : Text.Equivalent label.toList label'.toList) :
    dictionaryKey label = dictionaryKey label' := by
  rw [dictionaryKey, CamelCase.ofChars, CamelCase.kept, h.withoutDiacritics_eq]
  rfl

namespace Page

-- The page of a label, for a line that is otherwise given.
def ofName (language : String) (l : Line) (label : String) : Page :=
  ofLine { l with name := label, slug := Slug.ofText language label }

structure SameNames (p q : Page) : Prop where
  slug          : p.slug = q.slug
  file          : p.file = q.file
  variableName  : p.variableName = q.variableName
  dictionaryKey : p.dictionaryKey = q.dictionaryKey

theorem sameNames_of_equivalent (h : Text.Equivalent label.toList label'.toList) (l : Line) :
    SameNames (ofName language l label) (ofName language l label') := by
  have hs : Slug.ofText language label = Slug.ofText language label' :=
    Slug.ofText_eq_of_equivalent h
  have hk := dictionaryKey_eq_of_equivalent h
  constructor <;> simp only [ofName, ofLine, hs, hk] <;> rfl

end Page

-- Names do not depend on the form in which a label is written.
theorem names_of_normal (language label : String) :
    Slug.ofText language (Text.normal label) = Slug.ofText language label ∧
    dictionaryKey (Text.normal label) = dictionaryKey label ∧
    projectFolder (Text.normal label) = projectFolder label ∧
    ∀ label', Text.Equivalent label.toList label'.toList → ∀ l : Line,
      Page.SameNames (Page.ofName language l label) (Page.ofName language l label') := by
  have hn := Text.equivalent_normal label
  have hk := dictionaryKey_eq_of_equivalent hn
  refine ⟨Slug.ofText_eq_of_equivalent hn, hk, ?_, fun _ => Page.sameNames_of_equivalent⟩
  rw [projectFolder, hk, projectFolder]

-- A letter with two marks, composed and with the marks in the order in which they are not composed.
theorem names_of_normal_marks :
    let l := Line.ofLabel "es" 0 "Nhậm & Phở".toList
    Page.SameNames (Page.ofName "es" l "Nhậm & Phở")
      (Page.ofName "es" l "Nha\u0302\u0323m & Pho\u031B\u0309") :=
  (names_of_normal "es" _).right.right.right _ (Text.equivalent_iff.mpr <| by decide +kernel) _

end MenuOutline
