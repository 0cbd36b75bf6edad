import MenuOutline.Text.Lowercase.Table

-- Small letters. Each character has its small form; a capital sigma at the end of a word becomes a
-- final sigma.

namespace MenuOutline.Text

namespace Lowercase

def Run.contains (r : Run) (n : Nat) : Bool :=
  r.first ≤ n && n ≤ r.last && (n - r.first) % r.step == 0

-- The small form of a character on its own: two characters for a dotted capital I.
def ofChar (c : Char) : List Char :=
  if c = 'İ' then ['i', '\u0307']
  else if c.toNat < 0x80 then [c.toLower]
  else match runs.find? (·.contains c.toNat) with
    | some r => [Char.ofNat (r.small + (c.toNat - r.first))]
    | none => [c]

def isCased (c : Char) : Bool :=
  cased.contains c

def isCaseIgnorable (c : Char) : Bool :=
  caseIgnorableScripts.contains c || caseIgnorableOthers.contains c

-- Whether the first character that is not passed over has a case.
def startsCased (cs : List Char) : Bool :=
  (cs.dropWhile isCaseIgnorable).head?.any isCased

-- `inWord` tells whether the last character not passed over had a case.
def continueWord (inWord : Bool) : List Char → List Char
  | [] => []
  | c :: cs =>
    let small :=
      if c = 'Σ' then [if inWord && !startsCased cs then 'ς' else 'σ'] else ofChar c
    small ++ continueWord (if isCaseIgnorable c then inWord else isCased c) cs

end Lowercase

def lowercase (cs : List Char) : List Char :=
  Lowercase.continueWord false cs

end MenuOutline.Text
