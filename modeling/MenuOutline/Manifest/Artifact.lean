import MenuOutline.Manifest.Page
import MenuOutline.Site.Dictionary
import MenuOutline.Site.Navigation
import MenuOutline.Site.PageFile
import MenuOutline.Site.Route

-- Dictionary entries, routes, files and navigation items as data, and back.

namespace MenuOutline

open Datum

namespace DictionaryEntry

-- The key and, beside it, the text of each language.
def toDatum (e : DictionaryEntry) : Datum :=
  .table (("key", .text e.key) :: e.texts.map fun (language, s) => (language, .text s))

-- The texts of all members but the key.
def readTexts : List (String × Datum) → Decoded (Keyed String)
  | [] => .ok []
  | (key, d) :: ms => do
    let s ← atKey key readText d
    return (← readTexts ms).insert key s

-- The key is looked for before the texts, and may not be there twice.
def ofDatum : Datum → Decoded DictionaryEntry
  | .table ms => do
    let key ← require "key" (← readOnce "key" readText ms)
    return { key, texts := ← readTexts (ms.filter (·.1 != "key")) }
  | d => mismatch (.wrongType d "struct DictionaryEntry")

end DictionaryEntry

namespace Route

def toDatum (r : Route) : Datum :=
  .table [
    ("primarySlug", .text r.primarySlug),
    ("secondarySlug", .text r.secondarySlug),
    ("phpFile", .text r.file)]

structure Draft where
  primarySlug : Option String
  secondarySlug : Option String
  file : Option String

def record : Record Draft where
  name := "UrlMapping"
  fields := [
    field "primarySlug" readText fun r a => { r with primarySlug := some a },
    field "secondarySlug" readText fun r a => { r with secondarySlug := some a },
    field "phpFile" readText fun r a => { r with file := some a }]
  required := 3
  start := { primarySlug := none, secondarySlug := none, file := none }
  strict := false

def ofDatum (d : Datum) : Decoded Route := do
  let r ← record.read d
  return {
    primarySlug := ← require "primarySlug" r.primarySlug
    secondarySlug := ← require "secondarySlug" r.secondarySlug
    file := ← require "phpFile" r.file }

end Route

namespace PageFile

def toDatum (f : PageFile) : Datum :=
  .table [
    ("filename", .text f.filename),
    ("slug", .text f.slug),
    ("name", .text f.name),
    ("varName", .text f.variableName),
    ("dictionaryKey", ofOptional f.dictionaryKey),
    ("seo", .text f.seo),
    ("isHome", .bool f.isHome)]

structure Draft where
  filename : Option String
  slug : Option String
  name : Option String
  variableName : Option String
  dictionaryKey : Option String
  seo : Option String
  isHome : Option Bool

def record : Record Draft where
  name := "FileEntry"
  fields := [
    field "filename" readText fun r a => { r with filename := some a },
    field "slug" readText fun r a => { r with slug := some a },
    field "name" readText fun r a => { r with name := some a },
    field "varName" readText fun r a => { r with variableName := some a },
    field "dictionaryKey" (readOptional readText) fun r dictionaryKey => { r with dictionaryKey },
    field "seo" readText fun r a => { r with seo := some a },
    field "isHome" readBool fun r a => { r with isHome := some a }]
  required := 7
  start := {
    filename := none, slug := none, name := none, variableName := none, dictionaryKey := none
    seo := none, isHome := none }
  strict := false

def ofDatum (d : Datum) : Decoded PageFile := do
  let r ← record.read d
  return {
    filename := ← require "filename" r.filename
    slug := ← require "slug" r.slug
    name := ← require "name" r.name
    variableName := ← require "varName" r.variableName
    dictionaryKey := r.dictionaryKey
    seo := ← require "seo" r.seo
    isHome := ← require "isHome" r.isHome }

end PageFile

namespace NavItem

def toDatum (i : NavItem) (submenu : Datum) : Datum :=
  .table [
    ("name", .text i.name),
    ("slug", ofOptional i.slug),
    ("url", .text i.url),
    ("varName", ofOptional i.variableName),
    ("dictionaryKey", ofOptional i.dictionaryKey),
    ("hasSubmenu", .bool i.hasSubmenu),
    ("skipPage", .bool i.skipPage),
    ("submenu", submenu)]

structure Draft where
  name : Option String
  slug : Option String
  url : Option String
  variableName : Option String
  dictionaryKey : Option String
  hasSubmenu : Option Bool
  skipPage : Option Bool

def Draft.finish (r : Draft) : Decoded NavItem := do
  return {
    name := ← require "name" r.name
    slug := r.slug
    url := ← require "url" r.url
    variableName := r.variableName
    dictionaryKey := r.dictionaryKey
    hasSubmenu := ← require "hasSubmenu" r.hasSubmenu
    skipPage := ← require "skipPage" r.skipPage }

def nest : Nest Draft NavItem where
  name := "MenuItem"
  slots := [
    .own (field "name" readText fun r a => { r with name := some a }),
    .own (field "slug" (readOptional readText) fun r slug => { r with slug }),
    .own (field "url" readText fun r a => { r with url := some a }),
    .own (field "varName" (readOptional readText) fun r variableName => { r with variableName }),
    .own (field "dictionaryKey" (readOptional readText) fun r dictionaryKey =>
      { r with dictionaryKey }),
    .own (field "hasSubmenu" readBool fun r a => { r with hasSubmenu := some a }),
    .own (field "skipPage" readBool fun r a => { r with skipPage := some a }),
    .below "submenu"]
  required := 7
  start := {
    name := none, slug := none, url := none, variableName := none, dictionaryKey := none
    hasSubmenu := none, skipPage := none }
  finish := Draft.finish

-- An item and the items of its submenu.
def ofDatum (d : Datum) : Decoded (NavItem × Outline NavItem) :=
  nest.readNode d

end NavItem

def navigationToDatum (items : Outline NavItem) : Datum :=
  .list (ofOutline NavItem.toDatum items)

def navigationOfDatum (d : Datum) : Decoded (Outline NavItem) :=
  NavItem.nest.readOutline d

end MenuOutline
