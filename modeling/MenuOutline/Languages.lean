-- The languages of a site.

namespace MenuOutline

-- The language of the first section and, on a bilingual site, that of the second.
structure Languages where
  primary : String
  secondary : Option String
deriving DecidableEq, Repr

namespace Languages

def toList (l : Languages) : List String :=
  l.primary :: l.secondary.toList

end Languages

def defaultLanguage : String :=
  "es"

end MenuOutline
