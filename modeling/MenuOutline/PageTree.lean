import MenuOutline.Page
import MenuOutline.Section

-- The page tree of a section. Every line goes below the last page one level up; a line without such
-- a page is dropped and its number kept.

namespace MenuOutline

-- A line deeper than the levels allowed.
structure TooDeep where
  line : Nat
  level : Nat
  maxDepth : Nat
deriving DecidableEq, Repr

structure PageTree where
  pages : Outline Page
  -- The numbers of the lines dropped, in order.
  dropped : List Nat
deriving DecidableEq, Repr

namespace PageTree

def empty : PageTree where
  pages := .nil
  dropped := []

def add (t : PageTree) (number : Nat) (p : Page) : PageTree :=
  match t.pages.append? p p.level with
  | some pages => { t with pages }
  | none => { t with dropped := t.dropped ++ [number] }

-- Adds the lines of a section that hold a page.
def addLines (language : String) (maxDepth : Nat) (t : PageTree) : Section → Except TooDeep PageTree
  | [] => .ok t
  | source :: sources =>
    match Line.read? language source.text with
    | none => addLines language maxDepth t sources
    | some l =>
      if maxDepth ≤ l.level then
        .error { line := source.number, level := l.level, maxDepth }
      else addLines language maxDepth (t.add source.number (.ofLine l)) sources

def build (language : String) (maxDepth : Nat) (s : Section) : Except TooDeep PageTree :=
  addLines language maxDepth .empty s

end PageTree

end MenuOutline
