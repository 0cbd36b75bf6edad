import MenuOutline.Line.Seo
import MenuOutline.Slug

-- Lines of a menu. A line is a label, indented to its level, perhaps behind a bullet, with markers
-- and an annotation. Blank lines and comments hold no page.

namespace MenuOutline

-- A line taken apart.
structure Line where
  level : Nat
  name : String
  -- The description of the annotation, empty without one.
  seo : String
  -- The slug of the label, empty when no character of it has a place in a slug.
  slug : String
  markers : Markers
deriving DecidableEq, Repr

namespace Line

def kind (l : Line) : PageKind :=
  l.markers.kind

-- Leading tabs, or leading blanks in pairs.
def indentation (cs : List Char) : Nat :=
  if cs.head? = some '\t' then (cs.takeWhile (· == '\t')).length
  else (cs.takeWhile Text.isBlank).length / 2

-- Drops a bullet, which is a hyphen with a blank after it.
def dropBullet : List Char → List Char
  | '-' :: c :: cs => if Text.isBlank c then Text.trimStart cs else '-' :: c :: cs
  | cs => cs

-- The label alone.
def label (cs : List Char) : List Char :=
  Text.trim (Markers.strip (Seo.strip cs))

-- The slug of what stands before the annotation.
def slugOf (language : String) (cs : List Char) : String :=
  Slug.ofText language (.ofList (Text.trim (Text.before Markers.seoOpener (Markers.strip cs))))

-- Takes apart a text that is neither indented nor behind a bullet.
def ofLabel (language : String) (level : Nat) (cs : List Char) : Line where
  level
  name := .ofList (label cs)
  seo := .ofList (Seo.ofChars cs)
  slug := slugOf language cs
  markers := Markers.detect cs

-- Whether a line is blank or a comment.
def isIdle (cs : List Char) : Bool :=
  match Text.trim cs with
  | [] => true
  | c :: _ => c == '#'

-- Takes a line apart, unless it is blank or a comment. The language decides only how ampersands are
-- read out in the slug.
def read? (language : String) (cs : List Char) : Option Line :=
  if isIdle cs then none
  else some (ofLabel language (indentation cs) (dropBullet (Text.trim cs)))

end Line

end MenuOutline
