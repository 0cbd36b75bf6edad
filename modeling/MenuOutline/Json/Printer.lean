import MenuOutline.Datum.Basic

-- Data written as JSON, on one line or with one member or item to a line.

namespace MenuOutline.Json

-- Numbers have their digits written out from a hundred thousandth to below ten to the sixteenth. A
-- tie goes to the even digit.
def numberForm : Binary64.Form where
  isPositional point := -5 < point && point ≤ 16
  roundsUp n := n % 2 = 1

-- A control by its code, in four hexadecimal digits.
def controlCode (c : Char) : List Char :=
  let digits := Nat.toDigits 16 c.toNat
  ['\\', 'u'] ++ List.replicate (4 - digits.length) '0' ++ digits

def escapeChar (c : Char) : List Char :=
  match c with
  | '"' => ['\\', '"']
  | '\\' => ['\\', '\\']
  | '\x08' => ['\\', 'b']
  | '\x0c' => ['\\', 'f']
  | '\n' => ['\\', 'n']
  | '\r' => ['\\', 'r']
  | '\t' => ['\\', 't']
  | c => if c.toNat < 0x20 then controlCode c else [c]

def writeText (s : String) : String :=
  .ofList (['"'] ++ s.toList.flatMap escapeChar ++ ['"'])

-- A datum without parts; numbers that JSON cannot hold are null.
def writeScalar : Datum → String
  | .bool b => if b then "true" else "false"
  | .int n => toString n
  | .float (.finite negative m e) => numberForm.write (.finite negative m e)
  | .text s | .date s => writeText s
  | _ => "null"

mutual

-- On one line, without blanks.
def compact : Datum → String
  | .list items => "[" ++ ",".intercalate (compactItems items) ++ "]"
  | .table members => "\x7b" ++ ",".intercalate (compactMembers members) ++ "\x7d"
  | d => writeScalar d

def compactItems : List Datum → List String
  | [] => []
  | d :: ds => compact d :: compactItems ds

def compactMembers : List (String × Datum) → List String
  | [] => []
  | (key, d) :: ms => (writeText key ++ ":" ++ compact d) :: compactMembers ms

end

-- Parts between brackets, each on a line of its own, one step deeper than the brackets.
def block (opening closing : String) (depth : Nat) (parts : List String) : String :=
  if parts.isEmpty then opening ++ closing
  else
    let newline (depth : Nat) := "\n" ++ String.ofList (List.replicate (2 * depth) ' ')
    opening ++ newline (depth + 1) ++ ("," ++ newline (depth + 1)).intercalate parts ++
      newline depth ++ closing

mutual

def prettyAt (depth : Nat) : Datum → String
  | .list items => block "[" "]" depth (prettyItems (depth + 1) items)
  | .table members => block "\x7b" "\x7d" depth (prettyMembers (depth + 1) members)
  | d => writeScalar d

def prettyItems (depth : Nat) : List Datum → List String
  | [] => []
  | d :: ds => prettyAt depth d :: prettyItems depth ds

def prettyMembers (depth : Nat) : List (String × Datum) → List String
  | [] => []
  | (key, d) :: ms => (writeText key ++ ": " ++ prettyAt depth d) :: prettyMembers depth ms

end

-- With each part on a line of its own, indented by two spaces for every level.
def pretty (d : Datum) : String :=
  prettyAt 0 d

end MenuOutline.Json
