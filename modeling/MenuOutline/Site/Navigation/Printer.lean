import MenuOutline.Site.Literal
import MenuOutline.Site.Markup
import MenuOutline.Site.Navigation

-- The navigation file: the menu as nested lists, behind a button that unfolds it. Labels are looked
-- up in the dictionary, and addresses and the mark of the current page are left to code.

namespace MenuOutline

namespace NavItem

-- The dictionary's text for the label, or the name of an item without a key.
def label (i : NavItem) : Leaf :=
  match i.dictionaryKey with
  | some key => .snippet ("<?php echo $diccionario[\"Menu" ++ Literal.inDouble key ++ "\"]; ?>")
  | none => .text i.name

def href (i : NavItem) : Leaf :=
  match i.slug with
  | some slug => .snippet ("<?php echo crear_url(" ++ Literal.single slug ++ ", $idioma); ?>")
  | none => .snippet i.url

-- Marks the item of the current page.
def activeClass (i : NavItem) : List Leaf :=
  match i.variableName with
  | some name =>
    [.snippet ("<?php echo ($pagina == " ++ Literal.single name ++ ") ? ' active' : ''; ?>")]
  | none => []

def plainAttribute (name value : String) : Attribute where
  name
  value := [.text value]

-- The list of a submenu, unless it is empty.
def submenu (items : Markup) : Markup :=
  if items = .empty then .empty
  else .element "ul" [plainAttribute "class" "submenu"] items .empty

-- An item with its submenu. Skipped pages have no link.
def toMarkup (i : NavItem) (below after : Markup) : Markup :=
  let label := Markup.leaf i.label .empty
  if i.skipPage then
    .element "li" [plainAttribute "class" "menu-item no-link"]
      (.element "span" [] label (submenu below)) after
  else
    .element "li" [{ name := "class", value := .text "menu-item" :: i.activeClass }]
      (.element "a" [{ name := "href", value := [i.href] }] label (submenu below)) after

def listMarkup : Outline NavItem → Markup
  | .nil => .empty
  | .cons i below after => i.toMarkup (listMarkup below) (listMarkup after)

-- The button that unfolds the menu on small screens.
def toggle (after : Markup) : Markup :=
  .element "button"
    [plainAttribute "class" "menu-toggle", plainAttribute "type" "button",
      plainAttribute "aria-label" "Toggle menu"]
    (.element "span" [] .empty <| .element "span" [] .empty <| .element "span" [] .empty .empty)
    after

end NavItem

open NavItem in
def navigationMarkup (items : Outline NavItem) : Markup :=
  .element "nav" [plainAttribute "class" "main-nav"]
    (toggle (.element "ul" [plainAttribute "class" "menu"] (listMarkup items) .empty)) .empty

def navigationFile (items : Outline NavItem) : String :=
  "<?php\n/**\n * Navigation menu\n * Generated from the menu file. Do not edit.\n */\n?>\n" ++
    (navigationMarkup items).write ++ "\n"

end MenuOutline
