import MenuOutline.Proofs.Markup.Token
import MenuOutline.Proofs.Outline.Depth

namespace MenuOutline

namespace Markup

-- What a document is made of. Below an element stands its content.
inductive Node where
  | piece (p : Piece)
  | element (tag : String) (attributes : Attributes)
deriving DecidableEq, Repr

-- Nests tokens, from the last to the first. Beside the nodes stand the tags that have ended and whose
-- start has not been met, the innermost first, each with the nodes after its element. A start must
-- meet the end of its own tag.
def nest : List Token → Option (Outline Node × List (String × Outline Node))
  | [] => some (.nil, [])
  | .piece p :: ts => do
    let (after, ends) ← nest ts
    return (.cons (.piece p) .nil after, ends)
  | .finish tag :: ts => do
    let (after, ends) ← nest ts
    return (.nil, (tag, after) :: ends)
  | .start tag attributes :: ts => do
    match ← nest ts with
    | (content, (tag', after) :: ends) =>
      if tag = tag' then return (.cons (.element tag attributes) content after, ends) else none
    | (_, []) => none

-- The nodes of a text in which every tag is closed.
def read? (text : String) : Option (Outline Node) :=
  match Text.run step (.at .content) text.toList with
  | (.at .content, ts) =>
    match nest ts with
    | some (nodes, []) => some nodes
    | _ => none
  | _ => none

-- The characters that tags and values are told from text by.
def signs : List Char :=
  ['<', '>', '"']

theorem notMem_signs_of_mem_escape {s : String} {c : Char} (h : c ∈ (escape s).toList) :
    c ∉ signs := by
  rw [escape, String.toList_ofList] at h
  have ⟨d, _, hc⟩ := List.mem_flatMap.mp h
  have hs : ∀ entity ∈ ["&amp;", "&lt;", "&gt;", "&quot;"],
      entity.toList.all (decide <| · ∉ signs) := by decide
  unfold escapeChar at hc
  split at hc
  case h_5 ha hl hg hq =>
    obtain rfl := List.mem_singleton.mp hc
    simpa only [signs, List.mem_cons, List.not_mem_nil, or_false, not_or] using ⟨hl, hg, hq⟩
  all_goals
    exact of_decide_eq_true <| List.all_eq_true.mp (hs _ (by simp)) c hc

end Markup

namespace Leaf

open Markup

-- What is read of a leaf that stands between tags.
def pieces (l : Leaf) : List Piece :=
  (Text.run step (.at .content) (writeLeaf l).toList).2.filterMap fun
    | .piece p => some p
    | _ => none

-- Whether the same is read of it at every place, and nothing else.
def Readable (l : Leaf) : Prop :=
  ∀ place, Reads (.at place) (writeLeaf l).toList (.at (place.after l.pieces))
    (place.tokens l.pieces)

theorem readable_of_reads {l : Leaf} {ps : List Piece}
    (h : ∀ place, Reads (.at place) (writeLeaf l).toList (.at (place.after ps)) (place.tokens ps)) :
    l.pieces = ps ∧ l.Readable := by
  have hp : l.pieces = ps := by
    rw [pieces, (h .content).tokens_eq, Place.tokens, List.filterMap_map]
    exact List.filterMap_some
  refine ⟨hp, ?_⟩
  rw [Readable, hp]
  exact h

theorem readable_text (s : String) :
    (text s).pieces = (escape s).toList.map .char ∧ (text s).Readable := by
  refine readable_of_reads <| reads_chars fun c hc => ?_
  have hn := notMem_signs_of_mem_escape hc
  exact ⟨by rintro rfl; exact hn (by decide), by rintro rfl; exact hn (by decide)⟩

theorem readable_snippet {code : String} (h : '>' ∉ code.toList) :
    (snippet ("<?" ++ code ++ "?>")).pieces = [.snippet code.toList] ∧
      (snippet ("<?" ++ code ++ "?>")).Readable :=
  readable_of_reads <| reads_snippet h

end Leaf

namespace Markup

-- Whether the tags and attributes are named and the leaves are made in a certain way.
def MadeOf (name : String → Prop) (leaf : Leaf → Prop) : Markup → Prop
  | empty => True
  | .leaf l after => leaf l ∧ after.MadeOf name leaf
  | element tag attributes content after =>
    (name tag ∧ ∀ a ∈ attributes, name a.name ∧ ∀ l ∈ a.value, leaf l) ∧
      content.MadeOf name leaf ∧ after.MadeOf name leaf

def readAttribute (a : Attribute) : String × List Piece :=
  (a.name, a.value.flatMap Leaf.pieces)

-- The tokens that are written.
def tokens : Markup → List Token
  | empty => []
  | leaf l after => l.pieces.map .piece ++ after.tokens
  | element tag attributes content after =>
    .start tag (attributes.map readAttribute) :: (content.tokens ++ .finish tag :: after.tokens)

def pieceNodes (ps : List Piece) (after : Outline Node) : Outline Node :=
  ps.foldr (fun p => .cons (.piece p) .nil) after

def nodes : Markup → Outline Node
  | empty => .nil
  | leaf l after => pieceNodes l.pieces after.nodes
  | element tag attributes content after =>
    .cons (.element tag (attributes.map readAttribute)) content.nodes after.nodes

variable {m : Markup} {ts : List Token} {ends : List (String × Outline Node)}

-- Names and pieces of a node, as those of markup.
def Node.MadeOf (name : String → Prop) (piece : Piece → Prop) : Node → Prop
  | .piece p => piece p
  | .element tag attributes => name tag ∧ ∀ a ∈ attributes, name a.1 ∧ ∀ p ∈ a.2, piece p

theorem MadeOf.imp {name name' : String → Prop} {leaf leaf' : Leaf → Prop}
    (hn : ∀ s, name s → name' s) (hl : ∀ l, leaf l → leaf' l) (h : m.MadeOf name leaf) :
    m.MadeOf name' leaf' := by
  induction m
  case empty => trivial
  case leaf l after ha => exact ⟨hl l h.left, ha h.right⟩
  case element tag attributes content after hc ha =>
    have ⟨⟨ht, has⟩, hcontent, hafter⟩ := h
    refine ⟨⟨hn tag ht, fun a hm => ?_⟩, hc hcontent, ha hafter⟩
    have ⟨hname, hv⟩ := has a hm
    exact ⟨hn _ hname, fun l hm => hl l (hv l hm)⟩

theorem mem_entries_pieceNodes {n : Node} {ps : List Piece} {after : Outline Node} :
    n ∈ (pieceNodes ps after).entries ↔ (∃ p ∈ ps, n = .piece p) ∨ n ∈ after.entries := by
  induction ps
  case nil => simp [pieceNodes]
  case cons p ps hi =>
    simp only [pieceNodes, List.foldr_cons, Outline.entries, List.nil_append, List.mem_cons] at hi ⊢
    rw [hi]
    simp [or_assoc]

theorem madeOf_of_mem_nodes {name : String → Prop} {piece : Piece → Prop}
    (h : m.MadeOf name fun l => ∀ p ∈ l.pieces, piece p) :
    ∀ n ∈ m.nodes.entries, n.MadeOf name piece := by
  induction m <;> intro n hm
  case empty => contradiction
  case leaf l after ha =>
    obtain ⟨p, hp, rfl⟩ | hm := mem_entries_pieceNodes.mp hm
    · exact h.left p hp
    · exact ha h.right n hm
  case element tag attributes content after hc ha =>
    have ⟨⟨ht, has⟩, hcontent, hafter⟩ := h
    obtain rfl | hm | hm := Outline.mem_entries_cons.mp hm
    · refine ⟨ht, List.forall_mem_map.mpr fun a hm => ?_⟩
      have ⟨hname, hv⟩ := has a hm
      exact ⟨hname, List.forall_mem_flatMap.mpr hv⟩
    · exact hc hcontent n hm
    · exact ha hafter n hm

theorem nest_pieces {nodes : Outline Node} (h : nest ts = some (nodes, ends)) (ps : List Piece) :
    nest (ps.map .piece ++ ts) = some (pieceNodes ps nodes, ends) := by
  induction ps
  case nil => exact h
  case cons p ps hi =>
    rw [List.map_cons, List.cons_append, nest, hi]
    rfl

-- Elements end in the order in which they are written.
theorem nest_tokens (m : Markup) (h : nest ts = some (.nil, ends)) :
    nest (m.tokens ++ ts) = some (m.nodes, ends) := by
  induction m generalizing ts ends
  case empty => exact h
  case leaf l after ha =>
    rw [tokens, List.append_assoc]
    exact nest_pieces (ha h) l.pieces
  case element tag attributes content after hc ha =>
    have hf : nest (.finish tag :: (after.tokens ++ ts)) =
        some (.nil, (tag, after.nodes) :: ends) := by
      rw [nest, ha h]
      rfl
    rw [tokens, List.cons_append, List.append_assoc, List.cons_append, nest, hc hf]
    exact if_pos rfl

theorem reads_leaves {ls : List Leaf} (h : ∀ l ∈ ls, l.Readable) (place : Place) :
    Reads (.at place) (String.join (ls.map writeLeaf)).toList
      (.at (place.after (ls.flatMap Leaf.pieces))) (place.tokens (ls.flatMap Leaf.pieces)) := by
  induction ls generalizing place
  case nil =>
    rw [List.flatMap_nil, place.after_nil, place.tokens_nil]
    exact .refl _
  case cons l ls hi =>
    have ⟨hl, hls⟩ := List.forall_mem_cons.mp h
    have hr := (hl place).appendString (hi hls _)
    rwa [place.after_append, place.tokens_append, ← String.join_cons, ← List.map_cons] at hr

theorem reads_attributes {s : Mode} {head : Head} {as : List Attribute} (hs : Continues s head)
    (h : ∀ a ∈ as, IsName a.name ∧ ∀ l ∈ a.value, l.Readable) :
    Reads s (String.join (as.map writeAttribute) ++ ">").toList (.at .content)
      [.start head.tag (head.attributes ++ as.map readAttribute)] := by
  induction as generalizing s head
  case nil =>
    rw [List.map_nil, List.map_nil, List.append_nil]
    exact .cons hs.close <| .refl _
  case cons a as hi =>
    have ⟨⟨hn, hv⟩, has⟩ := List.forall_mem_cons.mp h
    have ha := reads_attribute hs hn <| reads_leaves hv (.value head a.name [])
    have hr := ha.appendString <| hi (continues_quote _) has
    rw [← String.append_assoc, ← String.join_cons] at hr
    rwa [List.map_cons, List.map_cons, List.append_cons]

-- What is written is read as it was made.
theorem reads_write (h : m.MadeOf IsName Leaf.Readable) :
    Reads (.at .content) m.write.toList (.at .content) m.tokens := by
  induction m
  case empty => exact .refl _
  case leaf l after ha =>
    have ⟨hl, h⟩ := h
    exact (hl .content).appendString (ha h)
  case element tag attributes content after hc ha =>
    have ⟨⟨ht, has⟩, hcontent, hafter⟩ := h
    have ho := (reads_opening ht).appendString <| reads_attributes (continues_tag tag) has
    have he := (reads_closing ht).appendString (ha hafter)
    have hr := ho.appendString <| (hc hcontent).appendString he
    simpa only [write, tokens, String.append_assoc, List.nil_append, List.cons_append] using hr

theorem read?_write (h : m.MadeOf IsName Leaf.Readable) : read? m.write = some m.nodes := by
  have hr : Text.run step (.at .content) m.write.toList = (.at .content, m.tokens) := reads_write h
  have hn : nest (m.tokens ++ []) = some (m.nodes, []) := nest_tokens m rfl
  rw [List.append_nil] at hn
  simp only [read?, hr, hn]

end Markup

end MenuOutline
