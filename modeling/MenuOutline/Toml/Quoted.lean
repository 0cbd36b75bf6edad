import MenuOutline.Toml.Char

-- Quoted texts of settings files: basic ones with escapes, between double quotes, and literal ones,
-- between single quotes. With three quotes at either end they run over several lines.

namespace MenuOutline.Toml

def shortEscape? (c : Char) : Option Char :=
  match c with
  | 'b' => some '\x08'
  | 't' => some '\t'
  | 'n' => some '\n'
  | 'f' => some '\x0c'
  | 'r' => some '\r'
  | '"' => some '"'
  | '\\' => some '\\'
  | _ => none

-- A character given by so many hexadecimal digits.
def readCode (digits : Nat) (cs : List Char) : Option (Char × List Char) :=
  let code := cs.take digits
  if code.length = digits ∧ code.all (fun c => (digit? 16 c).isSome) ∧
      (digitsValue 16 code).isValidChar then
    some (Char.ofNat (digitsValue 16 code), cs.drop digits)
  else none

-- The character that an escape stands for, after the backslash.
def readEscape : List Char → Option (Char × List Char)
  | 'u' :: cs => readCode 4 cs
  | 'U' :: cs => readCode 8 cs
  | c :: cs => (shortEscape? c).map (·, cs)
  | [] => none

-- A basic text on one line, up to its closing quote.
def readBasic (acc : List Char) : Nat → List Char → Option (List Char × List Char)
  | 0, _ | _, [] => none
  | _ + 1, '"' :: cs => some (acc.reverse, cs)
  | fuel + 1, '\\' :: cs => do
    let (c, rest) ← readEscape cs
    readBasic (c :: acc) fuel rest
  | fuel + 1, c :: cs => if isControl c then none else readBasic (c :: acc) fuel cs

-- A literal text on one line, up to its closing quote.
def readLiteral (acc : List Char) : List Char → Option (List Char × List Char)
  | [] => none
  | '\'' :: cs => some (acc.reverse, cs)
  | c :: cs => if isControl c then none else readLiteral (c :: acc) cs

-- The end of a text over several lines: three quotes, before which one or two more belong to the
-- text.
def closing? (quote : Char) (cs : List Char) : Option (Nat × List Char) :=
  let quotes := ((cs.takeWhile (· == quote)).take 5).length
  if 3 ≤ quotes then some (quotes - 3, cs.drop quotes) else none

-- What follows a backslash at the end of a line: the blanks and lines after it do not count.
def afterContinuation? (cs : List Char) : Option (List Char) :=
  (afterNewline? (skipSpace cs)).map skipBlankLines

def readBasicLines (acc : List Char) : Nat → List Char → Option (List Char × List Char)
  | 0, _ | _, [] => none
  | fuel + 1, c :: cs =>
    match closing? '"' (c :: cs) with
    | some (quotes, rest) => some (acc.reverse ++ List.replicate quotes '"', rest)
    | none =>
      if c = '\\' then
        match afterContinuation? cs with
        | some rest => readBasicLines acc fuel rest
        | none => do
          let (c, rest) ← readEscape cs
          readBasicLines (c :: acc) fuel rest
      else
        match afterNewline? (c :: cs) with
        | some rest => readBasicLines ('\n' :: acc) fuel rest
        | none => if isControl c then none else readBasicLines (c :: acc) fuel cs

def readLiteralLines (acc : List Char) : Nat → List Char → Option (List Char × List Char)
  | 0, _ | _, [] => none
  | fuel + 1, c :: cs =>
    match closing? '\'' (c :: cs) with
    | some (quotes, rest) => some (acc.reverse ++ List.replicate quotes '\'', rest)
    | none =>
      match afterNewline? (c :: cs) with
      | some rest => readLiteralLines ('\n' :: acc) fuel rest
      | none => if isControl c then none else readLiteralLines (c :: acc) fuel cs

-- A line end right after the opening quotes does not count.
def dropFirstNewline (cs : List Char) : List Char :=
  (afterNewline? cs).getD cs

-- A quoted text on one line.
def readLineText : List Char → Option (List Char × List Char)
  | '"' :: cs => readBasic [] (cs.length + 1) cs
  | '\'' :: cs => readLiteral [] cs
  | _ => none

-- A quoted text of any kind.
def readText : List Char → Option (List Char × List Char)
  | '"' :: '"' :: '"' :: cs => readBasicLines [] (cs.length + 1) (dropFirstNewline cs)
  | '\'' :: '\'' :: '\'' :: cs => readLiteralLines [] (cs.length + 1) (dropFirstNewline cs)
  | cs => readLineText cs

end MenuOutline.Toml
