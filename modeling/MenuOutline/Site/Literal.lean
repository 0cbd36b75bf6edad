-- Text literals of the generated pages. Between double quotes a backslash stands before a
-- backslash, a double quote or a dollar sign; between single quotes, before a backslash or a single
-- quote.

namespace MenuOutline.Literal

def escape (special : List Char) (cs : List Char) : List Char :=
  cs.flatMap fun c => if special.contains c then ['\\', c] else [c]

def doubleSpecial : List Char :=
  ['\\', '"', '$']

def singleSpecial : List Char :=
  ['\\', '\'']

-- The inside of a literal between double quotes.
def inDouble (s : String) : String :=
  .ofList (escape doubleSpecial s.toList)

-- The inside of a literal between single quotes.
def inSingle (s : String) : String :=
  .ofList (escape singleSpecial s.toList)

def double (s : String) : String :=
  "\"" ++ inDouble s ++ "\""

def single (s : String) : String :=
  "'" ++ inSingle s ++ "'"

end MenuOutline.Literal
