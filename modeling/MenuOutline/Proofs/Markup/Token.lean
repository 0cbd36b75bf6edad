import MenuOutline.Proofs.Text.Automaton
import MenuOutline.Site.Markup

namespace MenuOutline.Markup

-- What stands between tags or in the value of an attribute: characters, and snippets of code, each
-- of which is read as one piece whatever is in it.
inductive Piece where
  | char (c : Char)
  | snippet (code : List Char)
deriving DecidableEq, Repr

-- Attributes by name, each with the pieces of its value.
abbrev Attributes :=
  List (String × List Piece)

inductive Token where
  | piece (p : Piece)
  | start (tag : String) (attributes : Attributes)
  | finish (tag : String)
deriving DecidableEq, Repr

-- What has been read of a start tag, without the attribute that is being read.
structure Head where
  tag : String
  attributes : Attributes
deriving DecidableEq, Repr

-- Where pieces stand.
inductive Place where
  | content
  | value (head : Head) (name : String) (pieces : List Piece)
deriving DecidableEq, Repr

-- What has been read of a token that is not complete.
inductive Mode where
  | at (place : Place)
  -- Behind a "<".
  | bracket (place : Place)
  | snippet (place : Place) (code : List Char)
  | tag (name : List Char)
  | name (head : Head) (name : List Char)
  -- Behind the equals sign of an attribute.
  | equals (head : Head) (name : String)
  -- Behind the quote that ends a value.
  | quote (head : Head)
  | finish (name : List Char)
  -- Behind a character that has no place there.
  | failed
deriving DecidableEq, Repr

-- A value keeps the pieces that are read in it; between tags each piece is a token.
def Place.after : Place → List Piece → Place
  | .content, _ => .content
  | .value head name pieces, ps => .value head name (pieces ++ ps)

def Place.tokens : Place → List Piece → List Token
  | .content, ps => ps.map .piece
  | .value .., _ => []

def isNameChar (c : Char) : Bool :=
  c.isAlphanum || c == '-'

def Head.add (head : Head) (name : String) (value : List Piece) : Head :=
  { head with attributes := head.attributes ++ [(name, value)] }

-- The place behind a start tag.
def Head.close (head : Head) : Mode × List Token :=
  (.at .content, [.start head.tag head.attributes])

-- Reads a character. A snippet ends with its first "?>", a value with its first quote, and no other
-- tag or snippet starts without a "<".
def step : Mode → Char → Mode × List Token
  | .at place, c =>
    if c = '<' then (.bracket place, [])
    else match c, place with
      | '"', .value head name pieces => (.quote (head.add name pieces), [])
      | c, place => (.at (place.after [.char c]), place.tokens [.char c])
  | .bracket place, c =>
    if c = '?' then (.snippet place [], [])
    else if place = .content ∧ c = '/' then (.finish [], [])
    else if place = .content ∧ isNameChar c then (.tag [c], [])
    else (.failed, [])
  | .snippet place code, c =>
    if c = '>' ∧ code.getLast? = some '?' then
      (.at (place.after [.snippet code.dropLast]), place.tokens [.snippet code.dropLast])
    else (.snippet place (code ++ [c]), [])
  | .tag name, c =>
    if isNameChar c then (.tag (name ++ [c]), [])
    else if c = ' ' then (.name ⟨.ofList name, []⟩ [], [])
    else if c = '>' then Head.close ⟨.ofList name, []⟩
    else (.failed, [])
  | .name head name, c =>
    if isNameChar c then (.name head (name ++ [c]), [])
    else if c = '=' ∧ name ≠ [] then (.equals head (.ofList name), [])
    else (.failed, [])
  | .equals head name, c =>
    if c = '"' then (.at (.value head name []), []) else (.failed, [])
  | .quote head, c =>
    if c = ' ' then (.name head [], [])
    else if c = '>' then head.close
    else (.failed, [])
  | .finish name, c =>
    if isNameChar c then (.finish (name ++ [c]), [])
    else if c = '>' then (.at .content, [.finish (.ofList name)])
    else (.failed, [])
  | .failed, _ => (.failed, [])

abbrev Reads : Mode → List Char → Mode → List Token → Prop :=
  Text.Runs step

-- A name of a tag or an attribute.
def IsName (name : String) : Prop :=
  name ≠ "" ∧ ∀ c ∈ name.toList, isNameChar c

variable {place : Place} {head : Head} {name : String} {cs : List Char}

theorem Place.after_append (place : Place) (ps qs : List Piece) :
    (place.after ps).after qs = place.after (ps ++ qs) := by
  cases place
  case content => rfl
  case value   => simp [after]

theorem Place.tokens_append (place : Place) (ps qs : List Piece) :
    place.tokens ps ++ (place.after ps).tokens qs = place.tokens (ps ++ qs) := by
  cases place
  case content => exact List.map_append.symm
  case value   => rfl

theorem Place.after_nil (place : Place) : place.after [] = place := by
  cases place
  case content => rfl
  case value   => simp [after]

theorem Place.tokens_nil (place : Place) : place.tokens [] = [] := by
  cases place <;> rfl

theorem step_at_char {c : Char} (hl : c ≠ '<') (hq : c ≠ '"') (place : Place) :
    step (.at place) c = (.at (place.after [.char c]), place.tokens [.char c]) := by
  simp only [step, if_neg hl]
  split
  case h_1 => contradiction
  case h_2 => rfl

theorem reads_chars (h : ∀ c ∈ cs, c ≠ '<' ∧ c ≠ '"') (place : Place) :
    Reads (.at place) cs (.at (place.after (cs.map .char))) (place.tokens (cs.map .char)) := by
  induction cs generalizing place
  case nil =>
    rw [List.map_nil, place.after_nil, place.tokens_nil]
    exact .refl _
  case cons c cs hi =>
    have ⟨⟨hl, hq⟩, hcs⟩ := List.forall_mem_cons.mp h
    have hr := Text.Runs.cons (step_at_char hl hq place) (hi hcs _)
    rwa [place.after_append, place.tokens_append] at hr

theorem reads_snippet {code : String} (h : '>' ∉ code.toList) (place : Place) :
    Reads (.at place) ("<?" ++ code ++ "?>").toList (.at (place.after [.snippet code.toList]))
      (place.tokens [.snippet code.toList]) := by
  have ho : Reads (.at place) "<?".toList (.snippet place []) [] := rfl
  have hg : ∀ c ∈ code.toList, ∀ read,
      step (.snippet place read) c = (.snippet place (read ++ [c]), []) := by
    intro c hc read
    have hn : c ≠ '>' := by rintro rfl; exact h hc
    simp [step, hn]
  have hm : step (.snippet place code.toList) '?' =
      (.snippet place (code.toList ++ ['?']), []) := by
    simp [step]
  have he : step (.snippet place (code.toList ++ ['?'])) '>' =
      (.at (place.after [.snippet code.toList]), place.tokens [.snippet code.toList]) := by
    simp [step]
  have hc : Reads (.snippet place code.toList) "?>".toList
      (.at (place.after [.snippet code.toList])) (place.tokens [.snippet code.toList]) := by
    have hr := Text.Runs.cons hm <| .cons he <| .refl _
    rwa [List.append_nil] at hr
  exact (ho.appendString (.grow hg [])).appendString hc

theorem reads_opening (h : IsName name) :
    Reads (.at .content) ("<" ++ name).toList (.tag name.toList) [] := by
  have ⟨hn, hc⟩ := h
  cases hs : name.toList
  case nil => exact absurd (String.toList_eq_nil_iff.mp hs) hn
  case cons c cs =>
    have ⟨hc, hcs⟩ := List.forall_mem_cons.mp (hs ▸ hc)
    have ho : Reads (.at .content) "<".toList (.bracket .content) [] := rfl
    have hb : step (.bracket .content) c = (.tag [c], []) := by
      have hq : c ≠ '?' := by rintro rfl; contradiction
      have hd : c ≠ '/' := by rintro rfl; contradiction
      simp [step, hq, hd, hc]
    have hg : ∀ c ∈ cs, ∀ read, step (.tag read) c = (.tag (read ++ [c]), []) := by
      intro c hc read
      simp [step, hcs c hc]
    have hr : Reads (.bracket .content) name.toList (.tag (c :: cs)) [] := by
      rw [hs]
      exact .cons hb (.grow hg [c])
    exact ho.appendString hr

theorem reads_closing (h : IsName name) :
    Reads (.at .content) ("</" ++ name ++ ">").toList (.at .content) [.finish name] := by
  have ho : Reads (.at .content) "</".toList (.finish []) [] := rfl
  have hg : ∀ c ∈ name.toList, ∀ read, step (.finish read) c = (.finish (read ++ [c]), []) := by
    intro c hc read
    simp [step, h.right c hc]
  have hc : Reads (.finish name.toList) ">".toList (.at .content) [.finish name] := by
    have he : step (.finish name.toList) '>' = (.at .content, [.finish name]) := by
      simp [step, isNameChar]
    exact .cons he <| .refl _
  exact (ho.appendString (.grow hg [])).appendString hc

-- Whether a start tag can end here, or go on with an attribute.
structure Continues (s : Mode) (head : Head) : Prop where
  blank : step s ' ' = (.name head [], [])
  close : step s '>' = head.close

theorem continues_tag (tag : String) : Continues (.tag tag.toList) ⟨tag, []⟩ where
  blank := by simp [step, isNameChar]
  close := by simp [step, isNameChar]

theorem continues_quote (head : Head) : Continues (.quote head) head where
  blank := rfl
  close := rfl

-- An attribute leads from one such place to the next, if its value is read as pieces.
theorem reads_attribute {s : Mode} (hs : Continues s head) (h : IsName name) {value : String}
    {ps : List Piece}
    (hv : Reads (.at (.value head name [])) value.toList (.at (.value head name ps)) []) :
    Reads s (" " ++ name ++ "=\"" ++ value ++ "\"").toList (.quote (head.add name ps)) [] := by
  have hb : Reads s " ".toList (.name head []) [] := .cons hs.blank <| .refl _
  have hg : ∀ c ∈ name.toList, ∀ read,
      step (.name head read) c = (.name head (read ++ [c]), []) := by
    intro c hc read
    simp [step, h.right c hc]
  have hn : step (.name head name.toList) '=' = (.equals head name, []) := by
    simp [step, isNameChar, h.left]
  have he : Reads (.name head name.toList) "=\"".toList (.at (.value head name [])) [] :=
    .append (.cons hn (.refl _)) (rfl : Reads (.equals head name) ['"'] _ [])
  have hq : Reads (.at (.value head name ps)) "\"".toList (.quote (head.add name ps)) [] := rfl
  exact (((hb.appendString (.grow hg [])).appendString he).appendString hv).appendString hq

end MenuOutline.Markup
