import MenuOutline.Text.Pattern

-- Patterns inside a text. At each place a search tries the first choice before the second and one
-- more repetition before one less, and the first match that it meets counts.

namespace MenuOutline.Text.Pattern

-- The given characters.
def literal (word : List Char) : Pattern :=
  word.foldr (fun c a => seq (char c) a) empty

-- Reads again and again, up to `n` times, then once less, down to not at all. A repetition takes at
-- least one character.
def repeated (read : List Char → List (List Char × List Char)) :
    Nat → List Char → List (List Char × List Char)
  | 0, cs => [([], cs)]
  | n + 1, cs =>
    ((read cs).filter (!·.1.isEmpty)).flatMap (fun (m, cs) =>
      (repeated read n cs).map fun (ms, rest) => (m ++ ms, rest)) ++ [([], cs)]

-- The matches at the start of a text, each with what follows it, in the order of the search.
def leading : Pattern → List Char → List (List Char × List Char)
  | never, _ => []
  | empty, cs => [([], cs)]
  | one _, [] => []
  | one p, c :: cs => if p c then [([c], cs)] else []
  | seq a b, cs =>
    (a.leading cs).flatMap fun (m, cs) => (b.leading cs).map fun (n, rest) => (m ++ n, rest)
  | alt a b, cs => a.leading cs ++ b.leading cs
  | star a, cs => repeated a.leading cs.length cs

-- The match that counts at the start of a text, and what follows it.
def first? (a : Pattern) (cs : List Char) : Option (List Char × List Char) :=
  (a.leading cs).head?

def after? (a : Pattern) (cs : List Char) : Option (List Char) :=
  (a.first? cs).map (·.2)

-- A pattern with a group, which is taken out of its matches.
structure Grouped where
  front : Pattern
  group : Pattern
  back : Pattern

-- A match in its parts, and what follows it.
structure Captured where
  front : List Char
  group : List Char
  back : List Char
  rest : List Char
deriving DecidableEq, Repr

namespace Captured

def span (c : Captured) : List Char :=
  c.front ++ (c.group ++ c.back)

-- The match as a whole, as it is met without a group.
def whole (c : Captured) : List Char × List Char :=
  (c.span, c.rest)

end Captured

namespace Grouped

def leading (a : Grouped) (cs : List Char) : List Captured :=
  (a.front.leading cs).flatMap fun (front, cs) =>
    (a.group.leading cs).flatMap fun (group, cs) =>
      (a.back.leading cs).map fun (back, rest) => ⟨front, group, back, rest⟩

def first? (a : Grouped) (cs : List Char) : Option Captured :=
  (a.leading cs).head?

-- The same pattern without a group.
def ungrouped (a : Grouped) : Pattern :=
  a.front.seq (a.group.seq a.back)

end Grouped

end MenuOutline.Text.Pattern
