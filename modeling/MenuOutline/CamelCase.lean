import MenuOutline.Languages
import MenuOutline.Slug
import MenuOutline.Text.Blank

-- Names in camel case: the words of a text with capital initials, run together. Dictionary keys and
-- project folders are named so.

namespace MenuOutline

namespace CamelCase

def capitalize : List Char → List Char
  | [] => []
  | c :: cs => c.toUpper :: cs.map Char.toLower

-- What is left of a text: its ASCII letters and digits, and its blanks.
def kept (cs : List Char) : List Char :=
  (Text.withoutDiacritics cs).filter fun c => c.isAlphanum || Text.isBlank c

def ofChars (cs : List Char) : List Char :=
  (Text.words (kept cs)).flatMap capitalize

end CamelCase

-- The key under which the dictionary holds a label.
def dictionaryKey (label : String) : String :=
  .ofList (CamelCase.ofChars label.toList)

-- The folder of a business's site.
def projectFolder (business : String) : String :=
  let words := dictionaryKey business
  if words.isEmpty then "" else "Web_" ++ words

-- The folder of a business's images and styles.
def assetsFolder (business : String) : String :=
  let slug := Slug.ofText defaultLanguage business
  if slug.isEmpty then "" else "assets-" ++ slug

end MenuOutline
