import MenuOutline.Page

-- The navigation of a site, with an item for every page.

namespace MenuOutline

-- An item of the navigation.
structure NavItem where
  name : String
  slug : Option String
  url : String
  variableName : Option String
  dictionaryKey : Option String
  hasSubmenu : Bool
  skipPage : Bool
deriving DecidableEq, Repr

-- The address of a page below the root of the site; items without a slug lead nowhere.
def NavItem.urlOf : Option String → String
  | some slug => "/" ++ slug
  | none => "#"

def NavItem.ofPage (p : Page) (below : Outline Page) : NavItem where
  name := p.name
  slug := p.slug
  url := urlOf p.slug
  variableName := p.variableName
  dictionaryKey := p.dictionaryKey
  hasSubmenu := !below.isEmpty
  skipPage := p.skipPage

def navigation (pages : Outline Page) : Outline NavItem :=
  pages.mapWithBelow NavItem.ofPage

end MenuOutline
