import MenuOutline.Keyed
import MenuOutline.Languages
import MenuOutline.Outline.Walk
import MenuOutline.Page

-- The dictionary of a site: for every page the texts of its menu entry, title and descriptions, in
-- one or two languages.

namespace MenuOutline

-- A key with its text in each language.
structure DictionaryEntry where
  key : String
  texts : Keyed String
deriving DecidableEq, Repr

namespace DictionaryEntry

def text? (e : DictionaryEntry) (language : String) : Option String :=
  e.texts.lookup language

-- An entry with a text in the first language and, given both, one in the second.
def make (l : Languages) (key text : String) (secondary : Option String) : DictionaryEntry where
  key
  texts :=
    let texts := Keyed.insert l.primary text []
    match l.secondary, secondary with
    | some language, some secondary => texts.insert language secondary
    | _, _ => texts

-- What stands for the name of a business that has none.
def businessPlaceholder : String :=
  "[Nombre Empresa]"

def menuKey (key : String) : String :=
  "Menu" ++ key

def title (business name : String) : String :=
  name ++ " - " ++ business

-- The description of a page, which is empty when the page has none for search engines.
def seo (p : Page) : String :=
  if p.noSeo then "" else p.seo

-- The description in the second language; a page without descriptions has an empty one where it has
-- a name there.
def secondarySeo (p : Page) : Option String :=
  if p.noSeo then p.counterpart.name?.map fun _ => "" else p.counterpart.seo?

-- The entries of a page.
def ofPage (l : Languages) (business : String) (p : Page) : List DictionaryEntry :=
  match p.dictionaryKey with
  | none => []
  | some key =>
    let name := p.counterpart.name?
    make l (menuKey key) p.name name ::
      if p.hasFile then
        [make l (key ++ "Title") (title business p.name) (name.map (title business)),
          make l (key ++ "KeyWords") (seo p) (secondarySeo p),
          make l (key ++ "Description") (seo p) (secondarySeo p)]
      else []

end DictionaryEntry

-- The dictionary of a page tree.
def dictionary (l : Languages) (business : Option String) (pages : Outline Page) :
    List DictionaryEntry :=
  pages.walk.flatMap
    (DictionaryEntry.ofPage l (business.getD DictionaryEntry.businessPlaceholder))

theorem dictionary_eq (l : Languages) (business : Option String) (pages : Outline Page) :
    dictionary l business pages = pages.entries.flatMap
      (DictionaryEntry.ofPage l (business.getD DictionaryEntry.businessPlaceholder)) := by
  rw [dictionary, Outline.walk_eq_entries]

end MenuOutline
