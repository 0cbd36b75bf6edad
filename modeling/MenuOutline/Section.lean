import MenuOutline.Text.Blank
import MenuOutline.Text.Lines

-- Sections: the stretches of a menu between delimiter lines, one for each language.

namespace MenuOutline

-- A line with its place in the file, counted from one.
structure SourceLine where
  number : Nat
  text : List Char
deriving DecidableEq, Repr

abbrev Section := List SourceLine

namespace Section

-- A delimiter has hyphens alone, at least ten of them, between blanks.
def isDelimiter (cs : List Char) : Bool :=
  let trimmed := Text.trim cs
  10 ≤ trimmed.length && trimmed.all (· == '-')

-- A section, unless it is empty, before others.
def consNonEmpty (s : Section) (sections : List Section) : List Section :=
  if s.isEmpty then sections else s :: sections

-- The lines before the first delimiter, and the sections after it.
def splitLines : List SourceLine → Section × List Section
  | [] => ([], [])
  | l :: ls =>
    let (first, others) := splitLines ls
    if isDelimiter l.text then ([], consNonEmpty first others)
    else if Text.isBlankText l.text then (first, others)
    else (l :: first, others)

def numberFrom (n : Nat) : List (List Char) → List SourceLine
  | [] => []
  | cs :: css => { number := n, text := cs } :: numberFrom (n + 1) css

-- The sections of a menu that hold a line, in order, without their blank lines.
def split (content : String) : List Section :=
  let (first, others) := splitLines (numberFrom 1 (Text.lines content.toList))
  consNonEmpty first others

end Section

end MenuOutline
