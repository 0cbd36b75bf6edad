import MenuOutline.Datum.Record
import MenuOutline.Page

-- Pages as data: every field under its name in the manifest, and back.

namespace MenuOutline

namespace Datum

def ofOptional : Option String → Datum
  | some s => .text s
  | none => .null

-- A member for a text that is left out when it is absent.
def optionalMember (key : String) : Option String → List (String × Datum)
  | some s => [(key, .text s)]
  | none => []

-- The list of an outline's entries, each holding the list of those below it.
def ofOutline {α : Type} (encode : α → Datum → Datum) : Outline α → List Datum
  | .nil => []
  | .cons a below after => encode a (.list (ofOutline encode below)) :: ofOutline encode after

end Datum

open Datum

namespace Counterpart

def toDatum (c : Counterpart) : Datum :=
  .table (optionalMember "name" c.name ++ optionalMember "slug" c.slug ++
    optionalMember "seo" c.seo)

def record : Record Counterpart where
  name := "Translations"
  fields := [
    field "name" (readOptional readText) fun c name => { c with name },
    field "slug" (readOptional readText) fun c slug => { c with slug },
    field "seo" (readOptional readText) fun c seo => { c with seo }]
  required := 0
  start := .none
  strict := false

def ofDatum (d : Datum) : Decoded Counterpart :=
  record.read d

end Counterpart

namespace Page

def toDatum (p : Page) (children : Datum) : Datum :=
  .table [
    ("name", .text p.name),
    ("slug", ofOptional p.slug),
    ("seo", .text p.seo),
    ("level", .int p.level),
    ("isHome", .bool p.isHome),
    ("skipPage", .bool p.skipPage),
    ("pageNoSeo", .bool p.noSeo),
    ("isAutomanaged", .bool p.automanaged),
    ("hasSeo", .bool p.hasSeo),
    ("varName", ofOptional p.variableName),
    ("phpFile", ofOptional p.file),
    ("dictionaryKey", ofOptional p.dictionaryKey),
    ("children", children),
    ("translations", p.counterpart.toDatum)]

-- A page of which not all fields need be known yet.
structure Draft where
  name : Option String
  slug : Option String
  seo : Option String
  level : Option Nat
  isHome : Option Bool
  skipPage : Option Bool
  noSeo : Option Bool
  automanaged : Option Bool
  hasSeo : Option Bool
  variableName : Option String
  file : Option String
  dictionaryKey : Option String
  counterpart : Counterpart

namespace Draft

def empty : Draft where
  name := none
  slug := none
  seo := none
  level := none
  isHome := none
  skipPage := none
  noSeo := none
  automanaged := none
  hasSeo := none
  variableName := none
  file := none
  dictionaryKey := none
  counterpart := .none

-- The page, when no required field is missing.
def finish (r : Draft) : Decoded Page := do
  return {
    name := ← require "name" r.name
    slug := r.slug
    seo := ← require "seo" r.seo
    level := ← require "level" r.level
    isHome := ← require "isHome" r.isHome
    skipPage := ← require "skipPage" r.skipPage
    noSeo := ← require "pageNoSeo" r.noSeo
    automanaged := ← require "isAutomanaged" r.automanaged
    hasSeo := ← require "hasSeo" r.hasSeo
    variableName := r.variableName
    file := r.file
    dictionaryKey := r.dictionaryKey
    counterpart := r.counterpart }

end Draft

def nest : Nest Draft Page where
  name := "Page"
  slots := [
    .own (field "name" readText fun r a => { r with name := some a }),
    .own (field "slug" (readOptional readText) fun r slug => { r with slug }),
    .own (field "seo" readText fun r a => { r with seo := some a }),
    .own (field "level" readSize fun r a => { r with level := some a }),
    .own (field "isHome" readBool fun r a => { r with isHome := some a }),
    .own (field "skipPage" readBool fun r a => { r with skipPage := some a }),
    .own (field "pageNoSeo" readBool fun r a => { r with noSeo := some a }),
    .own (field "isAutomanaged" readBool fun r a => { r with automanaged := some a }),
    .own (field "hasSeo" readBool fun r a => { r with hasSeo := some a }),
    .own (field "varName" (readOptional readText) fun r variableName => { r with variableName }),
    .own (field "phpFile" (readOptional readText) fun r file => { r with file }),
    .own (field "dictionaryKey" (readOptional readText) fun r dictionaryKey =>
      { r with dictionaryKey }),
    .below "children",
    .own (field "translations" Counterpart.ofDatum fun r counterpart => { r with counterpart })]
  required := 12
  start := .empty
  finish := Draft.finish

-- A page and the pages below it.
def ofDatum (d : Datum) : Decoded (Page × Outline Page) :=
  nest.readNode d

end Page

def pagesToDatum (pages : Outline Page) : Datum :=
  .list (ofOutline Page.toDatum pages)

def pagesOfDatum (d : Datum) : Decoded (Outline Page) :=
  Page.nest.readOutline d

end MenuOutline
