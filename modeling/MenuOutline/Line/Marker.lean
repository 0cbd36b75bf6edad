import MenuOutline.Text.CaseFold
import MenuOutline.Text.Scan

-- Markers: tokens on a line that say how its page is treated.

namespace MenuOutline

-- The markers found on a line, each for itself.
structure Markers where
  skipPage : Bool
  noSeo : Bool
  automanaged : Bool
  hasSeo : Bool
deriving DecidableEq, Repr

-- How a page is treated.
inductive PageKind where
  | regular
  -- Listed in the menu, but without a file.
  | skip
  -- With a file that has no texts for search engines.
  | noSeo
  -- Kept by hand, so that no file is written.
  | automanaged
deriving DecidableEq, Repr

namespace PageKind

def generatesFile : PageKind → Bool
  | regular | noSeo => true
  | skip | automanaged => false

end PageKind

namespace Markers

-- One kind for all the markers of a line: a skipped page stays skipped, and a page kept by hand has
-- no use for the last marker.
def kind (m : Markers) : PageKind :=
  if m.skipPage then .skip
  else if m.automanaged then .automanaged
  else if m.noSeo then .noSeo
  else .regular

def singleStar : List Char := ['(', '*', ')']

def doubleStar : List Char := ['(', '*', '*', ')']

def seoOpener : List Char := ['(', 'S', 'E', 'O', ':']

-- The marker of pages kept by hand, in small letters.
def byHand : List Char := "(autogestionable)".toList

def afterStars? (cs : List Char) : Option (List Char) :=
  (Text.after? doubleStar cs).or (Text.after? singleStar cs)

def afterByHand? (cs : List Char) : Option (List Char) :=
  Text.dropFolded? byHand cs

-- A single star in parentheses that no other star follows.
def loneStar? (cs : List Char) : Option Unit :=
  match Text.after? singleStar cs with
  | some rest => if rest.head? = some '*' then none else some ()
  | none => none

def detect (cs : List Char) : Markers where
  skipPage := (Text.find? loneStar? cs).isSome
  noSeo := Text.occurs doubleStar cs
  automanaged := (Text.find? afterByHand? cs).isSome
  hasSeo := Text.occurs seoOpener cs

-- The text without its markers.
def strip (cs : List Char) : List Char :=
  Text.erase afterByHand? (Text.erase afterStars? cs)

end Markers

end MenuOutline
