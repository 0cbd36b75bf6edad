import MenuOutline.Proofs.PageTree.Items
import MenuOutline.Proofs.Slug.Ampersand
import MenuOutline.Proofs.Text.Decomposition
import MenuOutline.Proofs.Text.Trim

namespace MenuOutline

-- What a page says in every language: all but the spelling of its slugs and of what is made of
-- them. Whether it has any still shows.
def Page.unspelled (p : Page) : Page :=
  { p with
    slug         := p.slug.map fun _ => ""
    variableName := p.variableName.map fun _ => ""
    file         := p.file.map fun _ => ""
    counterpart  := { p.counterpart with slug := p.counterpart.slug.map fun _ => "" } }

-- It is enough to know of a slug whether it is empty and whether it is one of the home page.
theorem Page.unspelled_ofLine {l : Line} {slug : String} (he : l.slug = "" ↔ slug = "")
    (ha : Slug.isHomeAlias l.slug = Slug.isHomeAlias slug) :
    (ofLine l).unspelled = (ofLine { l with slug }).unspelled := by
  by_cases hs : l.slug = ""
  case pos =>
    rw [he.mp hs, ← hs]
  case neg =>
    have hn  : nonEmpty? l.slug = some l.slug := by simp [nonEmpty?, hs]
    have hn' : nonEmpty? slug = some slug     := by simp [nonEmpty?, he.not.mp hs]
    cases hk : l.markers.kind <;>
      simp [ofLine, unspelled, Line.kind, PageKind.generatesFile, hk, hn, hn', ha]

namespace Item

variable {language language' : String} {i : Item}

-- What the slug is made of.
def label (i : Item) : List Char :=
  Text.before Markers.seoOpener (Markers.strip i.text)

-- The language is heard in nothing but the spelling.
theorem unspelled_page : (i.page language).unspelled = (i.page language').unspelled :=
  Page.unspelled_ofLine Slug.ofText_eq_empty_iff Slug.isHomeAlias_ofText

theorem page_eq_of_ampersand_notMem (h : '&' ∉ i.label) :
    i.page language = i.page language' := by
  have hd : '&' ∉ Text.withoutDiacritics (String.ofList (Text.trim i.label)).toList := by
    intro hm
    rw [String.toList_ofList] at hm
    exact h <| (Text.trim_sublist _).mem <| Text.ampersand_mem_of_withoutDiacritics hm
  have hs : (i.line language).slug = (i.line language').slug :=
    Slug.ofText_eq_of_ampersand_notMem hd
  exact congrArg (fun slug => Page.ofLine { i.line language with slug }) hs

end Item

end MenuOutline
