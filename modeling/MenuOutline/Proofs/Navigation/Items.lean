import MenuOutline.Proofs.Navigation.Template

namespace MenuOutline

namespace Markup.Node

def isTag (tag : String) : Node → Bool
  | .element tag' _ => tag' == tag
  | .piece _ => false

def hasClass (name : String) : Node → Bool
  | .element _ attributes =>
    let words := ((attributes.lookup "class").getD []).splitOn (.char ' ')
    words.contains (name.toList.map .char)
  | .piece _ => false

def isSubmenu (n : Node) : Bool :=
  n.isTag "ul" && n.hasClass "submenu"

end Markup.Node

open Markup

-- A list item of a document.
structure ListItem where
  -- The count of submenus around it.
  depth : Nat
  node : Markup.Node
  content : Outline Markup.Node

-- The list items in the order of the document.
def listItems (depth : Nat) : Outline Markup.Node → List ListItem
  | .nil => []
  | .cons node content after =>
    let below := if node.isSubmenu then depth + 1 else depth
    let rest := listItems below content ++ listItems depth after
    if node.isTag "li" then { depth, node, content } :: rest else rest

-- The list of a submenu as it is read.
def submenuNode : Markup.Node :=
  .element "ul" [("class", "submenu".toList.map .char)]

-- The label of a skipped page is no link.
def Page.labelNode (p : Page) : Markup.Node :=
  if p.skipPage then .element "span" [] else .element "a" [("href", p.addressPieces)]

-- Whether an item is that of a page: the label, and then at most a submenu. The key that a label is
-- looked up with fits into its code.
structure ListItem.Shows (i : ListItem) (p : Page) : Prop where
  depth_eq   : i.depth = p.level
  noLink_iff : i.node.hasClass "no-link" ↔ p.skipPage
  content_eq : ∃ submenu, (submenu = .nil ∨ ∃ items, submenu = .cons submenuNode items .nil) ∧
    i.content = .cons p.labelNode (pieceNodes p.labelPieces .nil) submenu
  key_fits   : ∀ key ∈ p.dictionaryKey, Template.label.Fits key

-- The names of the tags and attributes of the navigation.
def navigationNames : List String :=
  ["nav", "button", "span", "ul", "li", "a", "class", "type", "aria-label", "href"]

def IsNavigationName (name : String) : Prop :=
  name ∈ navigationNames

theorem isName_of_isNavigationName {name : String} (h : IsNavigationName name) : IsName name := by
  have ha : ∀ s ∈ navigationNames, s ≠ "" ∧ s.toList.all isNameChar := by decide
  have ⟨hn, hc⟩ := ha name h
  exact ⟨hn, List.all_eq_true.mp hc⟩

theorem listItems_pieceNodes (d : Nat) (ps : List Piece) (after : Outline Markup.Node) :
    listItems d (pieceNodes ps after) = listItems d after := by
  induction ps
  case nil => rfl
  case cons p ps hi => exact hi

namespace NavItem

variable {p : Page} {below : Outline Page} {content after : Markup} {d : Nat}

theorem readAttribute_plain (name value : String) : readAttribute (plainAttribute name value) =
    (name, (escape value).toList.map .char) := by
  simp [readAttribute, plainAttribute, (Leaf.readable_text value).left]

theorem nodes_submenu (content : Markup) : (submenu content).nodes =
    if content = .empty then .nil else .cons submenuNode content.nodes .nil := by
  have ha : readAttribute (plainAttribute "class" "submenu") =
      ("class", "submenu".toList.map .char) := by
    rw [readAttribute_plain]
    decide +kernel
  unfold submenu
  split
  case isTrue => rfl
  case isFalse => simp only [nodes, List.map_cons, List.map_nil, ha, submenuNode]

theorem listItems_submenu (d : Nat) (content : Markup) :
    listItems d (submenu content).nodes = listItems (d + 1) content.nodes := by
  have hs : submenuNode.isSubmenu := by decide +kernel
  have hl : submenuNode.isTag "li" = false := rfl
  rw [nodes_submenu]
  split
  case isTrue h => rw [h]; rfl
  case isFalse => simp [listItems, hs, hl]

-- The element of an item as it is read.
def itemNode (p : Page) : Markup.Node :=
  .element "li" [("class",
    if p.skipPage then "menu-item no-link".toList.map .char
    else "menu-item".toList.map .char ++ p.markPieces)]

-- The item of a page with its submenu.
def item (d : Nat) (p : Page) (content : Markup) : ListItem where
  depth := d
  node := itemNode p
  content := .cons p.labelNode (pieceNodes p.labelPieces .nil) (submenu content).nodes

theorem hasClass_itemNode (p : Page) : (itemNode p).hasClass "no-link" = p.skipPage := by
  unfold itemNode Page.markPieces
  cases p.skipPage
  case true  => rfl
  case false => cases p.variableName <;> rfl

theorem nodes_toMarkup (w : p.WellFormed) (d : Nat) (content after : Markup) :
    ((ofPage p below).toMarkup content after).nodes =
      .cons (itemNode p) (item d p content).content after.nodes := by
  have hk : (ofPage p below).skipPage = p.skipPage := rfl
  have hl := (shows_label w below).pieces_eq
  have hr := (shows_href w below).pieces_eq
  have ha := (shows_activeClass w below).left
  have he : (escape "menu-item no-link").toList = "menu-item no-link".toList := by decide +kernel
  have he' : (escape "menu-item").toList = "menu-item".toList := by decide +kernel
  unfold toMarkup item itemNode Page.labelNode
  rw [hk]
  cases p.skipPage
  case true =>
    simp only [if_true, nodes, List.map_cons, List.map_nil, readAttribute_plain, he, hl]
  case false =>
    simp only [Bool.false_eq_true, if_false, nodes, List.map_cons, List.map_nil, readAttribute,
      List.flatMap_cons, List.flatMap_nil, List.append_nil, (Leaf.readable_text _).left, he', hl,
      hr, ha]

theorem shows_item (w : p.WellFormed) (hd : d = p.level) (content : Markup) :
    (item d p content).Shows p where
  depth_eq := hd
  noLink_iff := by rw [item, hasClass_itemNode]
  content_eq := by
    refine ⟨_, ?_, rfl⟩
    rw [nodes_submenu]
    split
    case isTrue  => exact .inl rfl
    case isFalse => exact .inr ⟨_, rfl⟩
  key_fits := w.fits_key

-- The step: an item stands in front of those of its submenu, which are one level down.
theorem listItems_item (d : Nat) (p : Page) (content : Markup) (after : Outline Markup.Node) :
    listItems d (.cons (itemNode p) (item d p content).content after) =
      item d p content :: (listItems (d + 1) content.nodes ++ listItems d after) := by
  have hi : (itemNode p).isTag "li" ∧ (itemNode p).isSubmenu = false := ⟨rfl, rfl⟩
  have hl : p.labelNode.isTag "li" = false ∧ p.labelNode.isSubmenu = false := by
    unfold Page.labelNode
    cases p.skipPage <;> exact ⟨rfl, rfl⟩
  simp [item, listItems, hi, hl, listItems_pieceNodes, listItems_submenu]

-- The run: the items of an outline of pages, all of which are as deep as their level says.
theorem listItems_listMarkup {pages : Outline Page} {d : Nat}
    (w : ∀ p ∈ pages.entries, p.WellFormed) (hd : ∀ x ∈ pages.withDepth d, x.2 = x.1.level) :
    List.Forall₂ ListItem.Shows (listItems d (listMarkup (navigation pages)).nodes)
      pages.entries := by
  induction pages generalizing d
  case nil => exact .nil
  case cons p below after hb ha =>
    simp only [Outline.entries, Outline.withDepth, List.forall_mem_cons, List.forall_mem_append]
      at w hd
    have hr := List.rel_append (hb w.right.left hd.right.left) (ha w.right.right hd.right.right)
    rw [navigation, Outline.mapWithBelow, listMarkup, nodes_toMarkup w.left d, listItems_item]
    exact .cons (shows_item w.left hd.left _) hr

theorem clean_text (s : String) : (Leaf.text s).Clean :=
  (Leaf.shows_text s).clean

theorem madeOf_submenu (h : content.MadeOf IsNavigationName Leaf.Clean) :
    (submenu content).MadeOf IsNavigationName Leaf.Clean := by
  unfold submenu
  split
  case isTrue  => trivial
  case isFalse => simp [MadeOf, plainAttribute, IsNavigationName, navigationNames, clean_text, h]

theorem madeOf_toMarkup (w : p.WellFormed) (hc : content.MadeOf IsNavigationName Leaf.Clean)
    (ha : after.MadeOf IsNavigationName Leaf.Clean) :
    ((ofPage p below).toMarkup content after).MadeOf IsNavigationName Leaf.Clean := by
  have hl := (shows_label w below).clean
  have hr := (shows_href w below).clean
  have hm := (shows_activeClass w below).right
  have hs := madeOf_submenu hc
  unfold toMarkup
  split
  case isTrue =>
    simp [MadeOf, plainAttribute, IsNavigationName, navigationNames, clean_text, hl, hs, ha]
  case isFalse =>
    simpa [MadeOf, IsNavigationName, navigationNames, clean_text, hl, hr, hs, ha] using hm

theorem madeOf_listMarkup {pages : Outline Page} (w : ∀ p ∈ pages.entries, p.WellFormed) :
    (listMarkup (navigation pages)).MadeOf IsNavigationName Leaf.Clean := by
  induction pages
  case nil => trivial
  case cons p below after hb ha =>
    have hw {q : Page} := w q ∘ Outline.mem_entries_cons.mpr
    exact madeOf_toMarkup (hw <| .inl rfl) (hb fun q hq => hw <| .inr <| .inl hq)
      (ha fun q hq => hw <| .inr <| .inr hq)

theorem madeOf_navigationMarkup {items : Outline NavItem}
    (h : (listMarkup items).MadeOf IsNavigationName Leaf.Clean) :
    (navigationMarkup items).MadeOf IsNavigationName Leaf.Clean := by
  simp [navigationMarkup, toggle, MadeOf, plainAttribute, IsNavigationName, navigationNames,
    clean_text, h]

theorem listItems_navigationMarkup (items : Outline NavItem) :
    listItems 0 (navigationMarkup items).nodes = listItems 0 (listMarkup items).nodes := by
  have hc : Markup.Node.hasClass "submenu"
      (.element "ul" [("class", (escape "menu").toList.map .char)]) = false := by decide +kernel
  simp [navigationMarkup, toggle, nodes, listItems, readAttribute_plain, Markup.Node.isTag,
    Markup.Node.isSubmenu, hc]

end NavItem

namespace Menu

variable {o : ParseOptions} {content : String} {sections : List Section} {m : Menu}

-- A page stands as deep in the tree as its line does.
theorem Parses.depth_eq_level (h : Parses o sections m) :
    ∀ x ∈ m.combined.withDepth 0, x.2 = x.1.level := by
  have ⟨_, _, t, ht, hp⟩ := h.exists_first
  have ⟨vs, r⟩ := PageTree.exists_records ht
  have hl : m.combined.map (·.level) = t.pages.map (·.level) := by
    rw [h.combined_eq, ← hp]
    exact map_withCounterparts _ fun _ _ => rfl
  intro x hx
  have hm : (x.1.level, x.2) ∈ (m.combined.map (·.level)).withDepth 0 := by
    rw [Outline.withDepth_map]
    exact List.mem_map_of_mem hx
  rw [hl, Outline.withDepth_map, r.pages, List.map_map] at hm
  have ⟨v, _, hv⟩ := List.mem_map.mp hm
  have ⟨hl, hd⟩ := Prod.mk.inj hv
  exact hd.symm.trans hl

-- The navigation of a menu nests its tags, and has an item for every page, in order and as deep as
-- the page. What it takes from the menu is escaped text, and words that fit into the code around
-- them.
theorem navigation_reads_back (h : parse o content = .ok m) :
    ∃ nodes, Markup.read? (navigationMarkup (navigation m.combined)).write = some nodes ∧
      List.Forall₂ ListItem.Shows (listItems 0 nodes) m.combined.entries ∧
      ∀ n ∈ nodes.entries, n.MadeOf IsNavigationName Piece.Safe := by
  have ⟨hr, _⟩ := parse_eq_ok_iff.mp h
  have hc := NavItem.madeOf_navigationMarkup <| NavItem.madeOf_listMarkup hr.wellFormed_combined
  have hi := NavItem.listItems_listMarkup hr.wellFormed_combined hr.depth_eq_level
  rw [← NavItem.listItems_navigationMarkup] at hi
  refine ⟨_, read?_write ?_, hi, ?_⟩
  · exact hc.imp (fun _ => isName_of_isNavigationName) fun _ => And.left
  · exact madeOf_of_mem_nodes <| hc.imp (fun _ => id) fun _ => And.right

-- A submenu below a page that is skipped, and names that have no key.
theorem navigation_reads_back_signs :
    let o : ParseOptions := ⟨⟨"es", none⟩, 3, false⟩
    let content := "Carta\n  \"<&>\" (*)\n    日本\nBlog <b>\n"
    ∃ m nodes, parse o content = .ok m ∧
      m.combined.entries.map (fun p => (p.level, p.skipPage, p.dictionaryKey)) =
        [(0, false, some "Carta"), (1, true, none), (2, false, none), (0, false, some "BlogB")] ∧
      Markup.read? (navigationMarkup (navigation m.combined)).write = some nodes ∧
      List.Forall₂ ListItem.Shows (listItems 0 nodes) m.combined.entries ∧
      ∀ n ∈ nodes.entries, n.MadeOf IsNavigationName Piece.Safe := by
  intro o content
  have ⟨m, hm, hp⟩ : ∃ m ∈ (parse o content).toOption, m.combined.entries.map (fun p =>
      (p.level, p.skipPage, p.dictionaryKey)) = [(0, false, some "Carta"), (1, true, none),
        (2, false, none), (0, false, some "BlogB")] := by decide +kernel
  have h := mem_toOption_parse.mp hm
  have ⟨nodes, hr⟩ := navigation_reads_back h
  exact ⟨m, nodes, h, hp, hr⟩

end Menu

end MenuOutline
