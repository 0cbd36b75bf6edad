-- Letters without regard to case, as far as they concern ASCII.

namespace MenuOutline.Text

-- Simple case folding onto ASCII. Two characters outside ASCII fold to a letter of it: the long s
-- and the Kelvin sign.
def foldCase (c : Char) : Char :=
  if c = 'ſ' then 's' else if c = '\u212A' then 'k' else c.toLower

-- The rest of the text after a word in small letters, met in any case.
def dropFolded? : List Char → List Char → Option (List Char)
  | [], cs => some cs
  | _ :: _, [] => none
  | w :: ws, c :: cs => if foldCase c = w then dropFolded? ws cs else none

-- Whether the text starts with a word in small letters, met in either case of ASCII.
def startsWithAnyCase (word cs : List Char) : Bool :=
  word.isPrefixOf (cs.map Char.toLower)

end MenuOutline.Text
