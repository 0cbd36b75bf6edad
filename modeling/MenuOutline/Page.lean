import MenuOutline.CamelCase
import MenuOutline.Line
import MenuOutline.Outline

-- Pages: what a line of the menu stands for on the site.

namespace MenuOutline

-- What the line at the same place of the second section says.
structure Counterpart where
  name : Option String
  slug : Option String
  seo : Option String
deriving DecidableEq, Repr

structure Page where
  name : String
  -- Absent for pages that are skipped and for labels without a slug.
  slug : Option String
  -- The description, or the name when the line has none.
  seo : String
  level : Nat
  isHome : Bool
  skipPage : Bool
  noSeo : Bool
  automanaged : Bool
  hasSeo : Bool
  variableName : Option String
  file : Option String
  dictionaryKey : Option String
  counterpart : Counterpart
deriving DecidableEq, Repr

-- A text, unless it is empty.
def nonEmpty? (s : String) : Option String :=
  if s.isEmpty then none else some s

namespace Counterpart

def none : Counterpart where
  name := .none
  slug := .none
  seo := .none

def ofPage (p : Page) : Counterpart where
  name := some p.name
  slug := p.slug
  seo := some p.seo

def name? (c : Counterpart) : Option String :=
  c.name.bind nonEmpty?

def slug? (c : Counterpart) : Option String :=
  c.slug.bind nonEmpty?

def seo? (c : Counterpart) : Option String :=
  c.seo.bind nonEmpty?

end Counterpart

namespace Page

def hasFile (p : Page) : Bool :=
  p.file.isSome

-- The page of a line.
def ofLine (l : Line) : Page :=
  let isHome := l.level == 0 && Slug.isHomeAlias l.slug
  let slug := if l.kind = .skip then none else nonEmpty? l.slug
  { name := l.name
    slug
    seo := if l.seo.isEmpty then l.name else l.seo
    level := l.level
    isHome
    skipPage := l.kind = .skip
    noSeo := l.kind = .noSeo
    automanaged := l.kind = .automanaged
    hasSeo := l.markers.hasSeo
    variableName := slug.map Slug.variableName
    file := if l.kind.generatesFile then slug.map (Slug.file · isHome) else none
    dictionaryKey := nonEmpty? (MenuOutline.dictionaryKey l.name)
    counterpart := .none }

end Page

end MenuOutline
