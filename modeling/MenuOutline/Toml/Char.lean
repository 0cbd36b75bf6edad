import MenuOutline.Text.Scan

-- Blanks, line ends and comments of settings files.

namespace MenuOutline.Toml

def isSpace (c : Char) : Bool :=
  c == ' ' || c == '\t'

-- Controls other than the tab stand neither in comments nor in texts.
def isControl (c : Char) : Bool :=
  (c.toNat < 0x20 && c != '\t') || c == '\x7f'

def skipSpace (cs : List Char) : List Char :=
  cs.dropWhile isSpace

-- What follows a line end.
def afterNewline? : List Char → Option (List Char)
  | '\n' :: cs => some cs
  | '\r' :: '\n' :: cs => some cs
  | _ => none

-- Skips blanks and line ends. A carriage return counts only as part of a line end.
def skipBlankLines : List Char → List Char
  | '\n' :: cs => skipBlankLines cs
  | '\r' :: '\n' :: cs => skipBlankLines cs
  | c :: cs => if isSpace c then skipBlankLines cs else c :: cs
  | [] => []

-- Skips blanks and a comment.
def skipComment (cs : List Char) : List Char :=
  match skipSpace cs with
  | '#' :: cs => cs.dropWhile (!isControl ·)
  | cs => cs

-- The next line, when nothing but a comment is left on this one.
def afterLine? (cs : List Char) : Option (List Char) :=
  match skipComment cs with
  | [] => some []
  | cs => afterNewline? cs

-- Skips blanks, comments and line ends.
def skipLines (cs : List Char) : List Char :=
  match afterNewline? (skipComment cs) with
  | some rest => if rest.length < cs.length then skipLines rest else rest
  | none => skipComment cs
termination_by cs.length

-- A digit of a base up to sixteen.
def digit? (base : Nat) (c : Char) : Option Nat :=
  let value :=
    if c.isDigit then c.toNat - '0'.toNat
    else if 'a' ≤ c ∧ c ≤ 'f' then c.toNat - 'a'.toNat + 10
    else if 'A' ≤ c ∧ c ≤ 'F' then c.toNat - 'A'.toNat + 10
    else base
  if value < base then some value else none

def digitsValue (base : Nat) (cs : List Char) : Nat :=
  cs.foldl (fun n c => n * base + (digit? base c).getD 0) 0

end MenuOutline.Toml
