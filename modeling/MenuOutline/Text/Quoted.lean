import MenuOutline.Text.Quoted.Codes

-- Texts between double quotes, readable on one line: quotes, backslashes and the common controls
-- have a short form, and characters that do not show are given by their code.

namespace MenuOutline.Text.Quoted

-- The code point in hexadecimal digits between braces.
def code (c : Char) : List Char :=
  ['\\', 'u', '\x7b'] ++ Nat.toDigits 16 c.toNat ++ ['\x7d']

def encodeChar (c : Char) : List Char :=
  match c with
  | '\x00' => ['\\', '0']
  | '\t' => ['\\', 't']
  | '\n' => ['\\', 'n']
  | '\r' => ['\\', 'r']
  | '"' => ['\\', '"']
  | '\\' => ['\\', '\\']
  | c => if needsCode c then code c else [c]

def encode (cs : List Char) : List Char :=
  ['"'] ++ cs.flatMap encodeChar ++ ['"']

end Quoted

-- The text between double quotes.
def quoted (s : String) : String :=
  .ofList (Quoted.encode s.toList)

end MenuOutline.Text
