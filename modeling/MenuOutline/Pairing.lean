import MenuOutline.Page

-- Pairing: the pages of the first section with those of the second, place by place. The first
-- section decides the shape. A level where the two have different counts of pages is reported,
-- since the pairs after it may have shifted.

namespace MenuOutline

-- A level with different counts in the two sections.
structure PairingMismatch where
  -- The name of the page above, absent at the top.
  parent : Option String
  primary : Nat
  secondary : Nat
deriving DecidableEq, Repr

namespace PairingMismatch

def message (m : PairingMismatch) : String :=
  let level := match m.parent with
    | some name => "submenu of \"" ++ name ++ "\""
    | none => "top level"
  level ++ " has " ++ toString m.primary ++ " primary pages but " ++ toString m.secondary ++
    " translations"

def ofLevel (parent : Option String) (primary secondary : Outline Page) : List PairingMismatch :=
  if primary.length = secondary.length then []
  else [{ parent, primary := primary.length, secondary := secondary.length }]

-- The mismatches below the pages of a level, where both sections have a page.
def below : Outline Page → Outline Page → List PairingMismatch
  | .cons p sub after, .cons _ sub' after' =>
    ofLevel (some p.name) sub sub' ++ below sub sub' ++ below after after'
  | _, _ => []

end PairingMismatch

-- The pages of the first section, with those of the second one beside them, if there is one.
def withCounterparts (primary : Outline Page) (secondary : Option (Outline Page)) : Outline Page :=
  primary.pairWith
    (fun p other => { p with counterpart := other.elim .none Counterpart.ofPage })
    (secondary.getD .nil)

-- The mismatches of two sections, each before those below it.
def pairingMismatches (primary : Outline Page) (secondary : Option (Outline Page)) :
    List PairingMismatch :=
  match secondary with
  | none => []
  | some secondary =>
    PairingMismatch.ofLevel none primary secondary ++ PairingMismatch.below primary secondary

end MenuOutline
