import MenuOutline.Text.Alphanumeric
import MenuOutline.Text.Decomposition
import MenuOutline.Text.Lowercase

-- Slugs: the form a label takes in an address. A slug is made of small ASCII letters and digits,
-- with single hyphens inside. From a slug follow the page's variable and its file.

namespace MenuOutline

-- How an ampersand is read out in a language.
def ampersandWord (language : String) : String :=
  match language with
  | "es" => "y"
  | "ca" => "i"
  | "fr" => "et"
  | "de" => "und"
  | "it" | "pt" => "e"
  | _ => "and"

namespace Slug

-- Characters that a slug leaves out without a gap.
def silent : List Char :=
  ['*', '+', '~', '.', '(', ')', '\'', '"', '!', ':', '@']

-- The ASCII spelling of Latin letters that do not decompose.
def spelling? (c : Char) : Option (List Char) :=
  match c with
  | 'ß' => some ['s', 's']
  | 'æ' | 'Æ' => some ['a', 'e']
  | 'œ' | 'Œ' => some ['o', 'e']
  | 'ø' | 'Ø' => some ['o']
  | 'ł' | 'Ł' => some ['l']
  | 'đ' | 'Đ' => some ['d']
  | 'þ' | 'Þ' => some ['t', 'h']
  | _ => none

-- What a character contributes to a slug.
inductive Piece where
  | nothing
  | gap
  | letters (cs : List Char)
  | word (cs : List Char)
deriving DecidableEq, Repr

-- Letters that have no ASCII form contribute nothing, other characters a gap.
def piece (language : String) (c : Char) : Piece :=
  if silent.contains c then .nothing
  else if c.isAlphanum then .letters [c.toLower]
  else match spelling? c with
    | some cs => .letters cs
    | none =>
      if c = '&' then .word (ampersandWord language).toList
      else if Text.isAlphanumeric c then .nothing
      else .gap

-- Writes pieces one after the other, with a hyphen for the gaps between two letters. `started`
-- tells whether something has been written, `gap` whether there was a gap since.
def write (started gap : Bool) : List Piece → List Char
  | [] => []
  | .nothing :: ps => write started gap ps
  | .gap :: ps => write started true ps
  | .letters cs :: ps => (if started && gap then ['-'] else []) ++ cs ++ write true false ps
  | .word cs :: ps => (if started then ['-'] else []) ++ cs ++ write true true ps

-- The slug of a label, with ampersands read out in the given language.
def ofText (language text : String) : String :=
  .ofList (write false false ((Text.withoutDiacritics text.toList).map (piece language)))

def isSlugChar (c : Char) : Bool :=
  c.isLower || c.isDigit

-- Checks what follows; `inPart` tells whether the part before it has a character.
def partsValid (inPart : Bool) : List Char → Bool
  | [] => inPart
  | c :: cs => if c = '-' then inPart && partsValid false cs else isSlugChar c && partsValid true cs

-- Whether a text is a slug: parts of small letters and digits, none empty, between hyphens.
def isValid (slug : String) : Bool :=
  partsValid false slug.toList

-- Slugs that mark the home page at the top of a menu.
def homeAliases : List String :=
  ["inicio", "inici", "home", "index"]

-- Slugs whose page is written to the home file wherever they stand.
def homeFileAliases : List String :=
  ["inicio", "home", "index"]

def homeFile : String :=
  "web.php"

def isHomeAlias (slug : String) : Bool :=
  homeAliases.contains slug

-- The file of a page. All home pages share one file.
def file (slug : String) (isHome : Bool) : String :=
  if isHome || homeFileAliases.contains slug then homeFile
  else if slug.isEmpty then ""
  else slug ++ ".php"

def isVariableChar (c : Char) : Bool :=
  c.isLower || c.isDigit || c == '_'

-- The variable that stands for a page: small letters, hyphens turned into underscores, and no other
-- characters than a variable may have.
def variableChars (slug : List Char) : List Char :=
  ((Text.lowercase slug).map fun c => if c = '-' then '_' else c).filter isVariableChar

def variableName (slug : String) : String :=
  .ofList (variableChars slug.toList)

end Slug

end MenuOutline
