import MenuOutline.Line.Marker
import MenuOutline.Text.Blank
import MenuOutline.Text.Pattern.Search

-- Annotations for search engines: an opener, a description with no closing parenthesis in it, and a
-- closing parenthesis.

namespace MenuOutline.Seo

open Text (Pattern)

def notClosing : Pattern :=
  .one (· != ')')

-- An annotation as it is read for its description: `\(SEO:\s*([^)]+)\)`.
def extraction : Pattern.Grouped where
  front := (Pattern.literal Markers.seoOpener).seq (Pattern.one Text.isBlank).star
  group := notClosing.plus
  back := .char ')'

-- An annotation as it is deleted: `\(SEO:[^)]+\)`.
def removal : Pattern :=
  (Pattern.literal Markers.seoOpener).seq <| notClosing.plus.seq <| .char ')'

-- The description of the first annotation, empty when there is none.
def ofChars (cs : List Char) : List Char :=
  match Text.find? extraction.first? cs with
  | some (_, c) => Text.trim c.group
  | none => []

-- The text without its annotations.
def strip (cs : List Char) : List Char :=
  Text.erase removal.after? cs

end MenuOutline.Seo
