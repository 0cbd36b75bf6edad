-- Markup: nested elements with attributes. Text is escaped when it is written, so that no character
-- of it is taken for markup; snippets of code are written as they are.

namespace MenuOutline

-- A part of an attribute or of an element's content that is not an element.
inductive Leaf where
  | text (s : String)
  -- Code that the server runs before the page is sent.
  | snippet (s : String)
deriving DecidableEq, Repr

structure Attribute where
  name : String
  value : List Leaf
deriving DecidableEq, Repr

-- Markup is empty, or a leaf or an element and what comes after it.
inductive Markup where
  | empty
  | leaf (l : Leaf) (after : Markup)
  | element (tag : String) (attributes : List Attribute) (content after : Markup)
deriving DecidableEq, Repr

namespace Markup

def escapeChar (c : Char) : List Char :=
  match c with
  | '&' => "&amp;".toList
  | '<' => "&lt;".toList
  | '>' => "&gt;".toList
  | '"' => "&quot;".toList
  | c => [c]

def escape (s : String) : String :=
  .ofList (s.toList.flatMap escapeChar)

def writeLeaf : Leaf → String
  | .text s => escape s
  | .snippet s => s

def writeAttribute (a : Attribute) : String :=
  " " ++ a.name ++ "=\"" ++ String.join (a.value.map writeLeaf) ++ "\""

-- Writes markup without blanks between the tags.
def write : Markup → String
  | empty => ""
  | leaf l after => writeLeaf l ++ after.write
  | element tag attributes content after =>
    "<" ++ tag ++ String.join (attributes.map writeAttribute) ++ ">" ++ content.write ++
      "</" ++ tag ++ ">" ++ after.write

end Markup

end MenuOutline
