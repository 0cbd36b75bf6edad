import MenuOutline.Toml.DateTime
import MenuOutline.Toml.Number
import MenuOutline.Toml.Quoted
import MenuOutline.Toml.Table

-- Settings files (TOML) read into data. Anything that is not such a file is refused, without a word
-- on where or why.

namespace MenuOutline.Toml

-- Arrays, inline tables and the parts of dotted keys nest less deep than this.
def depthLimit : Nat := 80

def isBareKeyChar (c : Char) : Bool :=
  c.isAlphanum || c == '_' || c == '-'

-- One part of a key: bare, or quoted on one line.
def readKeyPart (cs : List Char) : Option (String × List Char) :=
  match cs with
  | '"' :: _ | '\'' :: _ => (readLineText cs).map fun (name, rest) => (.ofList name, rest)
  | cs =>
    let (name, rest) := cs.span isBareKeyChar
    if name.isEmpty then none else some (.ofList name, rest)

-- The parts of a key, with points between them.
def readKeyParts (acc : List String) : Nat → List Char → Option (List String × List Char)
  | 0, _ => none
  | fuel + 1, cs => do
    let (name, rest) ← readKeyPart (skipSpace cs)
    match skipSpace rest with
    | '.' :: rest => readKeyParts (name :: acc) fuel rest
    | rest => return ((name :: acc).reverse, rest)

-- A key: the path to its table, and its last part.
def readKey (cs : List Char) : Option ((List String × String) × List Char) := do
  let (parts, rest) ← readKeyParts [] (depthLimit - 1) cs
  return ((parts.dropLast, parts.getLastD ""), rest)

def isTokenChar (c : Char) : Bool :=
  c.isAlphanum || c == '_' || c == '-' || c == '+' || c == '.' || c == ':'

-- A token; a date with a time after a space is one.
def readToken (cs : List Char) : List Char × List Char :=
  let (token, rest) := cs.span isTokenChar
  match rest with
  | ' ' :: c :: cs =>
    if isDate token && c.isDigit then
      let (time, rest) := (c :: cs).span isTokenChar
      (token ++ ' ' :: time, rest)
    else (token, rest)
  | rest => (token, rest)

-- What a token stands for.
def ofToken (token : List Char) : Option Datum :=
  if token = "true".toList then some (.bool true)
  else if token = "false".toList then some (.bool false)
  else (readInteger? token).or <| (readFloat? token).or <|
    (dateTime? token).map fun cs => .date (.ofList cs)

mutual

-- A value, with room for so many levels inside it.
def readValue (depth : Nat) : Nat → List Char → Option (Datum × List Char)
  | 0, _ => none
  | fuel + 1, cs =>
    match cs with
    | '"' :: _ | '\'' :: _ => (readText cs).map fun (s, rest) => (.text (.ofList s), rest)
    | '[' :: cs =>
      if depth = 0 then none
      else (readArray (depth - 1) [] fuel cs).map fun (ds, rest) => (.list ds, rest)
    | '\x7b' :: cs =>
      if depth = 0 then none
      else match skipSpace cs with
        | '\x7d' :: rest => some (.table [], rest)
        | cs => (readInline (depth - 1) [] fuel cs).map fun (es, rest) => (es.toDatum, rest)
    | cs => do
      let (token, rest) := readToken cs
      return (← ofToken token, rest)

-- The items of an array up to its closing bracket.
def readArray (depth : Nat) (acc : List Datum) : Nat → List Char → Option (List Datum × List Char)
  | 0, _ => none
  | fuel + 1, cs =>
    match skipLines cs with
    | ']' :: rest => some (acc.reverse, rest)
    | cs => do
      let (d, rest) ← readValue depth fuel cs
      match skipLines rest with
      | ',' :: rest => readArray depth (d :: acc) fuel rest
      | ']' :: rest => return ((d :: acc).reverse, rest)
      | _ => none

-- The pairs of an inline table up to its closing brace.
def readInline (depth : Nat) (es : Entries) : Nat → List Char → Option (Entries × List Char)
  | 0, _ => none
  | fuel + 1, cs => do
    let ((path, key), rest) ← readKey cs
    match rest with
    | '=' :: rest => do
      let (d, rest) ← readValue depth fuel (skipSpace rest)
      let es ← es.addDatum path key d
      match skipSpace rest with
      | ',' :: rest => readInline depth es fuel rest
      | '\x7d' :: rest => return (es, rest)
      | _ => none
    | _ => none

end

-- A file read so far: its tables, and the path to the one that is open.
structure Document where
  entries : Entries
  path : List String

namespace Document

def empty : Document where
  entries := []
  path := []

def readPair (doc : Document) (cs : List Char) : Option (Document × List Char) := do
  let ((path, key), rest) ← readKey cs
  match rest with
  | '=' :: rest => do
    let (d, rest) ← readValue (depthLimit - 1) (2 * rest.length + 1) (skipSpace rest)
    let entries ← doc.entries.changeOpen doc.path (·.addDatum path key d)
    return ({ doc with entries }, rest)
  | _ => none

def readHeader (doc : Document) : List Char → Option (Document × List Char)
  | '[' :: '[' :: cs => do
    let ((path, key), rest) ← readKey cs
    let rest ← Text.after? [']', ']'] rest
    return ({ entries := ← doc.entries.openItem path key, path := path ++ [key] }, rest)
  | '[' :: cs => do
    let ((path, key), rest) ← readKey cs
    let rest ← Text.after? [']'] rest
    return ({ entries := ← doc.entries.openTable path key, path := path ++ [key] }, rest)
  | _ => none

-- Reads the lines from here on: pairs, headers and lines without either.
def readLines (doc : Document) : Nat → List Char → Option Document
  | 0, _ => none
  | fuel + 1, cs =>
    match skipSpace cs with
    | [] => some doc
    | '#' :: cs => do readLines doc fuel (← afterLine? ('#' :: cs))
    | '\n' :: cs => readLines doc fuel cs
    | '\r' :: cs => do readLines doc fuel (← afterLine? ('\r' :: cs))
    | '[' :: cs => do
      let (doc, rest) ← doc.readHeader ('[' :: cs)
      readLines doc fuel (← afterLine? rest)
    | cs => do
      let (doc, rest) ← doc.readPair cs
      readLines doc fuel (← afterLine? rest)

end Document

-- The data of a settings file, which may start with a byte order mark.
def read? (s : String) : Option Datum :=
  let cs := match s.toList with
    | '\uFEFF' :: cs => cs
    | cs => cs
  (Document.empty.readLines (cs.length + 2) cs).map (·.entries.toDatum)

end MenuOutline.Toml
