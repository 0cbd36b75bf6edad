import MenuOutline.Site.Dictionary
import MenuOutline.Site.Literal

-- The dictionary file: one block for each entry, with an assignment for each language that has a
-- text.

namespace MenuOutline

namespace DictionaryEntry

def assignment (key language text : String) : String :=
  "$diccionario[" ++ Literal.double key ++ "][" ++ Literal.double language ++ "] = " ++
    Literal.double text ++ ";\n"

-- The key in a comment, then the assignments.
def block (languages : List String) (e : DictionaryEntry) : String :=
  "// " ++ e.key ++ "\n" ++
    String.join (languages.map fun language =>
      (e.text? language).elim "" (assignment e.key language)) ++ "\n"

def fileHeader : String :=
  "<?php\n/**\n * Multilingual dictionary\n" ++
    " * Generated from the menu file. Do not edit.\n */\n\n$diccionario = [];\n\n"

-- Reduces every entry to the language of the visitor, or else to the preferred one.
def fileFooter : String :=
  "$idioma = detectar_idioma();\n\n" ++
    "foreach ($diccionario as $clave => $traducciones) \x7b\n" ++
    "    $diccionario[$clave] = $traducciones[$idioma] ?? " ++
    "$traducciones[IDIOMA_PREFERENTE] ?? '';\n" ++
    "\x7d\n?>\n"

end DictionaryEntry

def dictionaryFile (l : Languages) (entries : List DictionaryEntry) : String :=
  DictionaryEntry.fileHeader ++ String.join (entries.map (DictionaryEntry.block l.toList)) ++
    DictionaryEntry.fileFooter

end MenuOutline
