import MenuOutline.Languages
import MenuOutline.Outline.Walk
import MenuOutline.PageTree
import MenuOutline.Pairing

-- Menus read whole: the page trees of the first two sections, and the first one with the pages of
-- the second beside its own. What was passed over on the way is kept beside them.

namespace MenuOutline

inductive MenuError where
  | emptyMenu
  | tooDeep (line : TooDeep)
  | pairingMismatch (m : PairingMismatch)
deriving DecidableEq, Repr

def MenuError.message : MenuError → String
  | emptyMenu => "empty menu file"
  | tooDeep l =>
    "line " ++ toString l.line ++ ": indentation level " ++ toString l.level ++
      " is deeper than the " ++ toString l.maxDepth ++ " supported levels"
  | pairingMismatch m => "language sections do not line up: " ++ m.message

structure ParseOptions where
  languages : Languages
  maxDepth : Nat
  -- Whether a pairing mismatch is an error.
  strictPairing : Bool
deriving DecidableEq, Repr

namespace ParseOptions

def secondaryLanguage (o : ParseOptions) : String :=
  o.languages.secondary.getD o.languages.primary

end ParseOptions

structure Menu where
  primary : Outline Page
  secondary : Option (Outline Page)
  combined : Outline Page
  -- The count of sections after the second.
  ignoredSections : Nat
  droppedLines : List Nat
  pairingMismatches : List PairingMismatch
deriving DecidableEq, Repr

namespace Menu

def hasSecondary (m : Menu) : Bool :=
  m.secondary.isSome

def pageCount (m : Menu) : Nat :=
  m.combined.walk.length

theorem pageCount_eq_size (m : Menu) : m.pageCount = m.combined.size :=
  m.combined.length_walk

-- Joins the trees of the first two sections.
def ofTrees (primary : PageTree) (secondary : Option PageTree) (ignoredSections : Nat) : Menu where
  primary := primary.pages
  secondary := secondary.map (·.pages)
  combined := withCounterparts primary.pages (secondary.map (·.pages))
  ignoredSections
  droppedLines := primary.dropped ++ (secondary.elim [] (·.dropped))
  pairingMismatches := MenuOutline.pairingMismatches primary.pages (secondary.map (·.pages))

-- Fails at the first mismatch where mismatches are errors.
def checkPairing (o : ParseOptions) (m : Menu) : Except MenuError Menu :=
  match o.strictPairing, m.pairingMismatches with
  | true, mismatch :: _ => .error (.pairingMismatch mismatch)
  | _, _ => .ok m

def buildTree (language : String) (maxDepth : Nat) (s : Section) : Except MenuError PageTree :=
  (PageTree.build language maxDepth s).mapError .tooDeep

def ofSections (o : ParseOptions) : List Section → Except MenuError Menu
  | [] => .error .emptyMenu
  | [first] => do
    let primary ← buildTree o.languages.primary o.maxDepth first
    checkPairing o (ofTrees primary none 0)
  | first :: second :: others => do
    let primary ← buildTree o.languages.primary o.maxDepth first
    let secondary ← buildTree o.secondaryLanguage o.maxDepth second
    checkPairing o (ofTrees primary (some secondary) others.length)

def parse (o : ParseOptions) (content : String) : Except MenuError Menu :=
  ofSections o (Section.split content)

end Menu

end MenuOutline
