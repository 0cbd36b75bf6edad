import MenuOutline.Manifest.Artifact
import MenuOutline.Menu
import MenuOutline.Settings

-- The manifest of a site: its page tree and all that is derived from it.

namespace MenuOutline

structure Manifest where
  languages : Languages
  hasSecondary : Bool
  projectFolder : Option String
  assetsFolder : Option String
  pages : Outline Page
  dictionary : List DictionaryEntry
  routes : List Route
  files : List PageFile
  navigation : Outline NavItem
deriving DecidableEq, Repr

namespace Manifest

-- The second language counts only where the menu has a second section.
def languagesOf (m : Menu) (s : Settings) : Languages where
  primary := s.languages.primary
  secondary := if m.hasSecondary then s.languages.secondary else none

-- The manifest of a menu. There are routes only on a bilingual site.
def build (m : Menu) (s : Settings) : Manifest :=
  let languages := languagesOf m s
  { languages
    hasSecondary := m.hasSecondary
    projectFolder := s.project.businessName.map MenuOutline.projectFolder
    assetsFolder := s.project.businessName.map MenuOutline.assetsFolder
    pages := m.combined
    dictionary := MenuOutline.dictionary languages s.project.businessName m.combined
    routes := if languages.secondary.isSome then MenuOutline.routes m.combined else []
    files := pageFiles m.combined
    navigation := MenuOutline.navigation m.combined }

open Datum

def toDatum (m : Manifest) : Datum :=
  .table ([("primaryLanguage", .text m.languages.primary)] ++
    optionalMember "secondaryLanguage" m.languages.secondary ++
    [("hasSecondaryLanguage", .bool m.hasSecondary)] ++
    optionalMember "projectFolder" m.projectFolder ++
    optionalMember "assetsFolder" m.assetsFolder ++
    [("pages", pagesToDatum m.pages),
      ("dictionary", .list (m.dictionary.map DictionaryEntry.toDatum)),
      ("urls", .list (m.routes.map Route.toDatum)),
      ("files", .list (m.files.map PageFile.toDatum)),
      ("navigation", navigationToDatum m.navigation)])

end Manifest

namespace PairingMismatch

def toDatum (m : PairingMismatch) : Datum :=
  .table [
    ("parent", Datum.ofOptional m.parent),
    ("primary", .int m.primary),
    ("secondary", .int m.secondary)]

end PairingMismatch

namespace Menu

open Datum

def toDatum (m : Menu) : Datum :=
  .table [
    ("primary", pagesToDatum m.primary),
    ("secondary", m.secondary.elim .null pagesToDatum),
    ("combined", pagesToDatum m.combined),
    ("hasSecondaryLanguage", .bool m.hasSecondary),
    ("ignoredSections", .int m.ignoredSections),
    ("droppedLines", .list (m.droppedLines.map fun (n : Nat) => .int n)),
    ("pairingMismatches", .list (m.pairingMismatches.map PairingMismatch.toDatum))]

end Menu

end MenuOutline
