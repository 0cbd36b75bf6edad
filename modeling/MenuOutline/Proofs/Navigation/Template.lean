import MenuOutline.Proofs.Literal
import MenuOutline.Proofs.Markup.Nodes
import MenuOutline.Proofs.Page.WellFormed
import MenuOutline.Site.Navigation.Printer

namespace MenuOutline

-- Code in the navigation that differs from page to page by a word, and the characters that the word
-- is made of.
structure Template where
  before : String
  fits : Char → Bool
  after : String

namespace Template

def fill (t : Template) (word : String) : String :=
  t.before ++ word ++ t.after

-- Writes the label with a key.
def label : Template where
  before := "php echo $diccionario[\"Menu"
  fits := Char.isAlphanum
  after := "\"]; "

-- Writes the address of a slug.
def address : Template where
  before := "php echo crear_url('"
  fits c := Slug.isSlugChar c || c == '-'
  after := "', $idioma); "

-- Marks the item of the page with a variable.
def mark : Template where
  before := "php echo ($pagina == '"
  fits := Slug.isVariableChar
  after := "') ? ' active' : ''; "

def all : List Template :=
  [label, address, mark]

variable {t : Template} {word : String}

def Fits (t : Template) (word : String) : Prop :=
  ∀ c ∈ word.toList, t.fits c

-- The characters by which a word could end its literal, or the code.
def ending : List Char :=
  ['\\', '"', '$', '\'', '>']

theorem Fits.notMem_ending (h : t.Fits word) (ht : t ∈ all) : ∀ c ∈ word.toList, c ∉ ending := by
  intro c hc he
  have hn : ending.all (!t.fits ·) := by
    simp only [all, List.mem_cons, List.not_mem_nil, or_false] at ht
    obtain rfl | rfl | rfl := ht <;> decide
  have hf := List.all_eq_true.mp hn c he
  simp [h c hc] at hf

theorem Fits.escape_eq (h : t.Fits word) (ht : t ∈ all) {special : List Char}
    (hs : special ⊆ ending) : Literal.escape special word.toList = word.toList :=
  Literal.escape_eq_self fun c hc hm => h.notMem_ending ht c hc (hs hm)

theorem Fits.inDouble_eq (h : t.Fits word) (ht : t ∈ all) : Literal.inDouble word = word := by
  rw [Literal.inDouble, h.escape_eq ht (by decide), String.ofList_toList]

theorem Fits.single_eq (h : t.Fits word) (ht : t ∈ all) :
    Literal.single word = "'" ++ word ++ "'" := by
  rw [Literal.single, Literal.inSingle, h.escape_eq ht (by decide), String.ofList_toList]

theorem Fits.notMem_fill (h : t.Fits word) (ht : t ∈ all) : '>' ∉ (t.fill word).toList := by
  have hw : '>' ∉ word.toList := fun hm => h.notMem_ending ht _ hm (by decide)
  have hp : '>' ∉ t.before.toList ∧ '>' ∉ t.after.toList := by
    simp only [all, List.mem_cons, List.not_mem_nil, or_false] at ht
    obtain rfl | rfl | rfl := ht <;> decide
  simp [fill, hp, hw]

end Template

namespace Markup.Piece

-- Whether a piece is a character of text, or code with a word that fits into it.
def Safe : Piece → Prop
  | .char c => c ∉ signs
  | .snippet code => ∃ t ∈ Template.all, ∃ word, t.Fits word ∧ code = (t.fill word).toList

end Markup.Piece

namespace Leaf

open Markup

-- Whether safe pieces, and nothing else, are read of a leaf.
def Clean (l : Leaf) : Prop :=
  l.Readable ∧ ∀ p ∈ l.pieces, p.Safe

structure Shows (l : Leaf) (ps : List Piece) : Prop where
  pieces_eq : l.pieces = ps
  clean     : l.Clean

variable {l : Leaf} {ps : List Piece} {t : Template} {word before after : String}

theorem shows_of_readable (h : l.pieces = ps ∧ l.Readable) (hs : ∀ p ∈ ps, p.Safe) : l.Shows ps :=
  ⟨h.left, h.right, h.left ▸ hs⟩

theorem shows_text (s : String) : (text s).Shows ((escape s).toList.map .char) :=
  shows_of_readable (readable_text s) <| List.forall_mem_map.mpr fun _ =>
    notMem_signs_of_mem_escape

theorem shows_fill (ht : t ∈ Template.all) (hw : t.Fits word) :
    (snippet ("<?" ++ t.fill word ++ "?>")).Shows [.snippet (t.fill word).toList] :=
  shows_of_readable (readable_snippet <| hw.notMem_fill ht) <|
    List.forall_mem_singleton.mpr ⟨t, ht, word, hw, rfl⟩

-- Code with a literal between quotes of either kind.
theorem shows_inDouble (ht : t ∈ Template.all) (hw : t.Fits word)
    (hb : before = "<?" ++ t.before) (ha : after = t.after ++ "?>") :
    (snippet (before ++ Literal.inDouble word ++ after)).Shows
      [.snippet (t.fill word).toList] := by
  have hl : before ++ Literal.inDouble word ++ after = "<?" ++ t.fill word ++ "?>" := by
    simp only [hw.inDouble_eq ht, hb, ha, Template.fill, String.append_assoc]
  exact hl ▸ shows_fill ht hw

theorem shows_single (ht : t ∈ Template.all) (hw : t.Fits word)
    (hb : before ++ "'" = "<?" ++ t.before) (ha : "'" ++ after = t.after ++ "?>") :
    (snippet (before ++ Literal.single word ++ after)).Shows [.snippet (t.fill word).toList] := by
  have hl : before ++ Literal.single word ++ after = "<?" ++ t.fill word ++ "?>" := by
    calc before ++ Literal.single word ++ after
        = before ++ "'" ++ word ++ ("'" ++ after) := by
          simp only [hw.single_eq ht, String.append_assoc]
      _ = "<?" ++ t.before ++ word ++ (t.after ++ "?>") := by rw [hb, ha]
      _ = "<?" ++ t.fill word ++ "?>" := by simp only [Template.fill, String.append_assoc]
  exact hl ▸ shows_fill ht hw

-- The address of an item that leads nowhere.
theorem shows_number : (snippet "#").Shows [.char '#'] := by
  have hc : ∀ c ∈ "#".toList, c ≠ '<' ∧ c ≠ '"' := by simp
  have hs : '#' ∉ signs := by decide
  exact shows_of_readable (readable_of_reads <| reads_chars hc) (List.forall_mem_singleton.mpr hs)

end Leaf

namespace Page

variable {p : Page}

theorem WellFormed.fits_key (w : p.WellFormed) : ∀ key ∈ p.dictionaryKey, Template.label.Fits key :=
  fun key hk => (w.dictionaryKey_chars key hk).right

theorem WellFormed.fits_slug (w : p.WellFormed) : ∀ slug ∈ p.slug, Template.address.Fits slug := by
  intro slug hs c hc
  have h := Slug.isSlugChar_or_eq_hyphen (w.slug_valid slug hs) c hc
  simpa [Template.address] using h

theorem WellFormed.fits_variable (w : p.WellFormed) :
    ∀ name ∈ p.variableName, Template.mark.Fits name := by
  intro name hn
  rw [w.variableName_eq] at hn
  have ⟨slug, hs, hn⟩ := Option.map_eq_some_iff.mp hn
  subst hn
  have hc := Slug.isSlugChar_or_eq_hyphen (w.slug_valid slug hs)
  rw [Template.Fits, String.toList_ofList]
  exact Slug.isVariableChar_of_mem_underscored hc

open Markup

-- What a document shows of a page: the text for its key, or its name if it has none.
def labelPieces (p : Page) : List Piece :=
  match p.dictionaryKey with
  | some key => [.snippet (Template.label.fill key).toList]
  | none => (escape p.name).toList.map .char

def addressPieces (p : Page) : List Piece :=
  match p.slug with
  | some slug => [.snippet (Template.address.fill slug).toList]
  | none => [.char '#']

def markPieces (p : Page) : List Piece :=
  p.variableName.toList.map fun name => .snippet (Template.mark.fill name).toList

end Page

namespace NavItem

variable {p : Page}

theorem shows_label (w : p.WellFormed) (below : Outline Page) :
    (ofPage p below).label.Shows p.labelPieces := by
  unfold label Page.labelPieces ofPage
  cases hk : p.dictionaryKey
  case none     => exact Leaf.shows_text p.name
  case some key => exact Leaf.shows_inDouble (.head _) (w.fits_key key hk) rfl rfl

theorem shows_href (w : p.WellFormed) (below : Outline Page) :
    (ofPage p below).href.Shows p.addressPieces := by
  unfold href Page.addressPieces ofPage
  cases hs : p.slug
  case none      => exact Leaf.shows_number
  case some slug => exact Leaf.shows_single (.tail _ <| .head _) (w.fits_slug slug hs) rfl rfl

theorem shows_activeClass (w : p.WellFormed) (below : Outline Page) :
    (ofPage p below).activeClass.flatMap Leaf.pieces = p.markPieces ∧
      ∀ l ∈ (ofPage p below).activeClass, l.Clean := by
  unfold activeClass Page.markPieces ofPage
  cases hv : p.variableName
  case none => exact ⟨rfl, nofun⟩
  case some name =>
    have hw := w.fits_variable name hv
    have h : (Leaf.snippet ("<?php echo ($pagina == " ++ Literal.single name ++
        ") ? ' active' : ''; ?>")).Shows [.snippet (Template.mark.fill name).toList] :=
      Leaf.shows_single (.tail _ <| .tail _ <| .head _) hw rfl rfl
    exact ⟨by simp [h.pieces_eq], List.forall_mem_singleton.mpr h.clean⟩

end NavItem

end MenuOutline
