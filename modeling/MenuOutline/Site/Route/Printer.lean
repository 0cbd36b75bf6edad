import MenuOutline.Languages
import MenuOutline.Site.Literal
import MenuOutline.Site.Route

-- The route file: a table from slugs to addresses in each language. The first route leads to the
-- root of the site, and so does every route to the home file.

namespace MenuOutline.Route

-- A route in the table: its key, its address in the first language and, on a bilingual site, the
-- second language with the address in it.
def row (l : Languages) (key : String) (primaryPath : String) (secondaryPath : String → String) :
    String :=
  "    " ++ Literal.single key ++ " => [\n" ++
    "        " ++ Literal.single l.primary ++ " => " ++ Literal.single primaryPath ++ ",\n" ++
    (l.secondary.elim "" fun language =>
      "        " ++ Literal.single language ++ " => " ++ Literal.single (secondaryPath language) ++
        ",\n") ++
    "    ],\n"

def homeRow (l : Languages) (key : String) : String :=
  row l key "/" fun language => "/" ++ language

def toRow (l : Languages) (r : Route) : String :=
  if r.file = Slug.homeFile then homeRow l r.primarySlug
  else row l r.primarySlug ("/" ++ r.primarySlug) fun language =>
    "/" ++ language ++ "/" ++ r.secondarySlug

def fileHeader : String :=
  "<?php\n/**\n * Multilingual URL map\n * Generated from the menu file. Do not edit.\n */\n\n" ++
    "$urls = [\n"

end MenuOutline.Route

namespace MenuOutline

def routeFile (l : Languages) (routes : List Route) : String :=
  Route.fileHeader ++ Route.homeRow l "web" ++ String.join (routes.map (Route.toRow l)) ++
    "];\n?>\n"

end MenuOutline
