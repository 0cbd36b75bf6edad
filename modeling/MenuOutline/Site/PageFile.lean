import MenuOutline.Outline.Walk
import MenuOutline.Page

-- Page files: the files that a site is made of, one for each page that has one.

namespace MenuOutline

-- A file to be written for a page.
structure PageFile where
  filename : String
  slug : String
  name : String
  variableName : String
  dictionaryKey : Option String
  seo : String
  isHome : Bool
deriving DecidableEq, Repr

def PageFile.ofPage? (p : Page) : Option PageFile := do
  let filename ← p.file
  let slug ← p.slug
  let variableName ← p.variableName
  return {
    filename, slug, variableName
    name := p.name
    dictionaryKey := p.dictionaryKey
    seo := if p.noSeo then "" else p.seo
    isHome := p.isHome }

def pageFiles (pages : Outline Page) : List PageFile :=
  pages.walk.filterMap PageFile.ofPage?

theorem pageFiles_eq (pages : Outline Page) :
    pageFiles pages = pages.entries.filterMap PageFile.ofPage? := by
  rw [pageFiles, Outline.walk_eq_entries]

end MenuOutline
