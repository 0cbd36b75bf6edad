import MenuOutline.Proofs.Code.Token
import MenuOutline.Proofs.Dictionary.Keys
import MenuOutline.Proofs.Page.WellFormed

namespace MenuOutline

namespace DictionaryEntry

-- A text that a key is given in a language.
structure Assignment where
  key : String
  language : String
  text : String
deriving DecidableEq, Repr

-- What the dictionary file says under one comment.
structure Block where
  comment : String
  assignments : List Assignment
deriving DecidableEq, Repr

def toBlock (l : Languages) (e : DictionaryEntry) : Block where
  comment     := e.key
  assignments := l.toList.filterMap fun language => (e.text? language).map (.mk e.key language)

-- The text of a literal between double quotes.
def textOf? (inside : List Char) : Option String :=
  (Literal.ofDouble? inside).map .ofList

-- The assignments before the first comment, the blocks after them, and what is left where neither
-- goes on.
def readBlocks : List Code.Token → Option (List Assignment × List Block × List Code.Token)
  | .comment (' ' :: text) :: ts => do
    let (as, blocks, rest) ← readBlocks ts
    return ([], ⟨.ofList text, as⟩ :: blocks, rest)
  | .word name :: .sign '[' :: .literal '"' key :: .sign ']' :: .sign '[' ::
      .literal '"' language :: .sign ']' :: .sign '=' :: .literal '"' text :: .sign ';' :: ts => do
    guard (name = "$diccionario".toList)
    let key ← textOf? key
    let language ← textOf? language
    let text ← textOf? text
    let (as, blocks, rest) ← readBlocks ts
    return (⟨key, language, text⟩ :: as, blocks, rest)
  | ts => some ([], [], ts)

-- The tokens behind the header of a dictionary file.
def bodyTokens? (text : String) : Option (List Code.Token) :=
  (Text.after? fileHeader.toList text.toList).map Code.tokens

def footerTokens : List Code.Token :=
  Code.tokens fileFooter.toList

-- The blocks of a dictionary file, which stand between its header and its footer.
def readFile? (text : String) : Option (List Block) :=
  match (bodyTokens? text).bind readBlocks with
  | some ([], blocks, rest) => if rest = footerTokens then some blocks else none
  | _ => none

variable {l : Languages} {e : DictionaryEntry} {blocks : List Block} {ts rest : List Code.Token}

def Assignment.tokens (a : Assignment) : List Code.Token :=
  let literal (s : String) := .literal '"' (Literal.escape Literal.doubleSpecial s.toList)
  [.word "$diccionario".toList, .sign '[', literal a.key, .sign ']', .sign '[', literal a.language,
    .sign ']', .sign '=', literal a.text, .sign ';']

def Block.tokens (b : Block) : List Code.Token :=
  .comment (' ' :: b.comment.toList) :: b.assignments.flatMap Assignment.tokens

theorem reads_assignment (key language text : String) :
    Code.Reads .code (assignment key language text).toList .code
      (Assignment.mk key language text).tokens := by
  have ho : Code.Reads .code "$diccionario[".toList .code
      [.word "$diccionario".toList, .sign '['] := by decide +kernel
  have hk : Code.Reads .code "][".toList .code [.sign ']', .sign '['] := by decide +kernel
  have hl : Code.Reads .code "] = ".toList .code [.sign ']', .sign '='] := by decide +kernel
  have hc : Code.Reads .code ";\n".toList .code [.sign ';'] := by decide +kernel
  exact ((((((ho.appendString <| Code.reads_double key).appendString hk).appendString <|
    Code.reads_double language).appendString hl).appendString <|
    Code.reads_double text).appendString hc)

-- The tokens of an entry are those of its block.
theorem reads_block (h : Code.FitsComment e.key.toList) :
    Code.Reads .code (block l.toList e).toList .code (e.toBlock l).tokens := by
  have ho : Code.Reads .code "// ".toList (.comment [' ']) [] := by decide +kernel
  have hk : Code.Reads (.comment [' ']) e.key.toList (.comment (' ' :: e.key.toList)) [] :=
    Code.reads_comment h.blank_cons
  have hn := Code.reads_lineEnd (' ' :: e.key.toList)
  have ha : ∀ language ∈ l.toList, Code.Reads .code
      ((e.text? language).elim "" (assignment e.key language)).toList .code
      (((e.text? language).map (.mk e.key language)).toList.flatMap Assignment.tokens) := by
    intro language _
    cases e.text? language
    case none => exact .refl _
    case some text =>
      rw [Option.map_some, Option.toList_some, List.flatMap_singleton]
      exact reads_assignment e.key language text
  have hc : Code.Reads .code "\n".toList .code [] := by decide +kernel
  have ht : (e.toBlock l).assignments.flatMap Assignment.tokens = l.toList.flatMap fun language =>
      ((e.text? language).map (.mk e.key language)).toList.flatMap Assignment.tokens := by
    rw [toBlock, List.filterMap_eq_flatMap_toList, List.flatMap_assoc]
  have hb := (((ho.appendString hk).appendString hn).appendString (.join ha)).appendString hc
  rw [List.append_nil, ← ht] at hb
  exact hb

theorem readFile?_eq_some {text : String} (ht : bodyTokens? text = some ts)
    (hr : readBlocks ts = some ([], blocks, footerTokens)) : readFile? text = some blocks := by
  unfold readFile?
  rw [ht, Option.bind_some, hr]
  exact if_pos rfl

theorem textOf?_escape (s : String) :
    textOf? (Literal.escape Literal.doubleSpecial s.toList) = some s := by
  rw [textOf?, Literal.ofDouble?_escape, Option.map_some, String.ofList_toList]

theorem readBlocks_assignment (a : Assignment) (ts : List Code.Token) :
    readBlocks (a.tokens ++ ts) = (readBlocks ts).map fun (as, blocks, rest) =>
      (a :: as, blocks, rest) := by
  simp only [Assignment.tokens, List.cons_append, List.nil_append, readBlocks, textOf?_escape]
  cases readBlocks ts <;> rfl

theorem readBlocks_block (b : Block) (h : readBlocks ts = some ([], blocks, rest)) :
    readBlocks (b.tokens ++ ts) = some ([], b :: blocks, rest) := by
  have ha : readBlocks (b.assignments.flatMap Assignment.tokens ++ ts) =
      some (b.assignments, blocks, rest) := by
    induction b.assignments
    case nil => exact h
    case cons a as hi =>
      rw [List.flatMap_cons, List.append_assoc, readBlocks_assignment, hi]
      rfl
  rw [Block.tokens, List.cons_append, readBlocks, ha]
  simp

theorem readBlocks_flatMap (bs : List Block) (h : readBlocks ts = some ([], blocks, rest)) :
    readBlocks (bs.flatMap Block.tokens ++ ts) = some ([], bs ++ blocks, rest) := by
  induction bs
  case nil => exact h
  case cons b bs hi =>
    rw [List.flatMap_cons, List.append_assoc]
    exact readBlocks_block b hi

-- The blocks end where the footer starts.
theorem readBlocks_footer : readBlocks footerTokens = some ([], [], footerTokens) ∧
    ∀ t ∈ footerTokens, t.hasBareDollar = false := by
  decide +kernel

theorem hasBareDollar_of_mem_tokens {b : Block} {t : Code.Token} (h : t ∈ b.tokens) :
    t.hasBareDollar = false := by
  cases List.mem_cons.mp h
  case inl h => exact h ▸ rfl
  case inr h =>
    have ⟨a, _, ha⟩ := List.mem_flatMap.mp h
    simp only [Assignment.tokens, List.mem_cons, List.not_mem_nil, or_false] at ha
    obtain rfl | rfl | rfl | rfl | rfl | rfl | rfl | rfl | rfl | rfl := ha
    all_goals first | rfl | exact Literal.hasBareDollar_escape _

theorem fitsComment_of_isAlphanum {key : String} (h : ∀ c ∈ key.toList, c.isAlphanum) :
    Code.FitsComment key.toList := by
  refine ⟨fun hm => ?_, fun hm => ?_, fun hm => ?_⟩
  · exact absurd (h _ hm) (by decide)
  · exact absurd (h _ hm) (by decide)
  · exact absurd (h _ <| hm.subset <| .head _) (by decide)

private theorem isAlphanum_of_mem_append {s t : String} (hs : ∀ c ∈ s.toList, c.isAlphanum)
    (ht : ∀ c ∈ t.toList, c.isAlphanum) : ∀ c ∈ (s ++ t).toList, c.isAlphanum := by
  rw [String.toList_append]
  exact List.forall_mem_append.mpr ⟨hs, ht⟩

theorem isAlphanum_of_mem_keysOf {p : Page} (w : p.WellFormed) {key : String}
    (h : key ∈ keysOf p) : ∀ c ∈ key.toList, c.isAlphanum := by
  have hm : ∀ c ∈ "Menu".toList, c.isAlphanum := List.all_eq_true.mp (by decide +kernel)
  have hs : ∀ suffix ∈ suffixes, ∀ c ∈ suffix.toList, c.isAlphanum := by
    have ha : suffixes.all fun suffix => suffix.toList.all Char.isAlphanum := by decide +kernel
    exact fun suffix hx => List.all_eq_true.mp <| List.all_eq_true.mp ha suffix hx
  unfold keysOf at h
  cases hk : p.dictionaryKey <;> simp only [hk] at h
  case none   => exact absurd h List.not_mem_nil
  case some k =>
    have ⟨_, hc⟩ := w.dictionaryKey_chars k hk
    cases List.mem_cons.mp h
    case inl h =>
      rw [h]
      exact isAlphanum_of_mem_append hm hc
    case inr h =>
      split at h
      case isFalse => exact absurd h List.not_mem_nil
      case isTrue  =>
        have ⟨suffix, hx, he⟩ := List.mem_map.mp h
        rw [← he]
        exact isAlphanum_of_mem_append hc (hs suffix hx)

end DictionaryEntry

open DictionaryEntry

theorem bodyTokens?_dictionaryFile (l : Languages) {entries : List DictionaryEntry}
    (h : ∀ e ∈ entries, Code.FitsComment e.key.toList) :
    bodyTokens? (dictionaryFile l entries) = some ((entries.map (toBlock l)).flatMap Block.tokens ++
      footerTokens) := by
  have hf := Text.Runs.of_run Code.step .code fileFooter.toList
  have hb := (Text.Runs.join fun e he => reads_block (l := l) (h e he)).appendString hf
  have ha : Text.after? fileHeader.toList (dictionaryFile l entries).toList =
      some (String.join (entries.map (block l.toList)) ++ fileFooter).toList := by
    rw [Text.after?_eq_some_iff, ← String.toList_append, ← String.append_assoc]
    rfl
  rw [bodyTokens?, ha, Option.map_some, Code.tokens, hb.tokens_eq, List.flatMap_map,
    footerTokens, Code.tokens]

-- A dictionary file says of every entry, in order, which texts it has in the languages of the site,
-- whatever the texts are, and no text is taken for code. The keys of a menu's dictionary are among
-- those that stand in a comment.
theorem dictionaryFile_reads_back :
    (∀ (l : Languages) (entries : List DictionaryEntry),
      (∀ e ∈ entries, Code.FitsComment e.key.toList) →
      readFile? (dictionaryFile l entries) = some (entries.map (toBlock l)) ∧
      ∃ ts, bodyTokens? (dictionaryFile l entries) = some ts ∧
        ∀ t ∈ ts, t.hasBareDollar = false) ∧
    (∀ o content m, Menu.parse o content = .ok m → ∀ l business,
      ∀ e ∈ dictionary l business m.combined, Code.FitsComment e.key.toList) := by
  constructor
  case left =>
    intro l entries h
    have ht := bodyTokens?_dictionaryFile l h
    refine ⟨?_, _, ht, fun t hm => ?_⟩
    · have hr := readBlocks_flatMap (entries.map (toBlock l)) readBlocks_footer.left
      rw [List.append_nil] at hr
      exact readFile?_eq_some ht hr
    · cases List.mem_append.mp hm
      case inl hm =>
        have ⟨b, _, hb⟩ := List.mem_flatMap.mp hm
        exact hasBareDollar_of_mem_tokens hb
      case inr hm => exact readBlocks_footer.right t hm
  case right =>
    intro o content m h l business e he
    have ⟨hr, _⟩ := Menu.parse_eq_ok_iff.mp h
    have hk : e.key ∈ m.combined.entries.flatMap keysOf :=
      map_key_dictionary l business m.combined ▸ List.mem_map_of_mem he
    have ⟨p, hp, hk⟩ := List.mem_flatMap.mp hk
    exact fitsComment_of_isAlphanum <| isAlphanum_of_mem_keysOf (hr.wellFormed_combined p hp) hk

-- Texts that would end their literal, their line and their file, and a second language.
theorem dictionaryFile_reads_back_quotes :
    let l : Languages := ⟨"es", some "ca"⟩
    let e : DictionaryEntry :=
      ⟨"A?\"$", [("ca", "\\"), ("es", "\";\n?>// $diccionario[\"A\"]"), ("fr", "A")]⟩
    let content := "Inicio\n  Carta (**)\nBlog (*)\n----------\nInici\n"
    (∀ x ∈ [e], Code.FitsComment x.key.toList) ∧
    readFile? (dictionaryFile l [e]) = some [⟨"A?\"$", [⟨"A?\"$", "es",
      "\";\n?>// $diccionario[\"A\"]"⟩, ⟨"A?\"$", "ca", "\\"⟩]⟩] ∧
    (∃ ts, bodyTokens? (dictionaryFile l [e]) = some ts ∧ ∀ t ∈ ts, t.hasBareDollar = false) ∧
    ∃ m, Menu.parse ⟨l, 3, false⟩ content = .ok m ∧
      ∀ x ∈ dictionary l none m.combined, Code.FitsComment x.key.toList := by
  intro l e content
  have he : ∀ x ∈ [e], Code.FitsComment x.key.toList :=
    List.forall_mem_singleton.mpr ⟨by decide +kernel, by decide +kernel, by decide +kernel⟩
  have ⟨hr, hd⟩ := dictionaryFile_reads_back.left l [e] he
  have ⟨m, h⟩ : ∃ m, Menu.parse ⟨l, 3, false⟩ content = .ok m :=
    (Menu.exists_ofSections_iff rfl).mpr (by decide +kernel)
  have hb : [e].map (toBlock l) = [⟨"A?\"$", [⟨"A?\"$", "es", "\";\n?>// $diccionario[\"A\"]"⟩,
    ⟨"A?\"$", "ca", "\\"⟩]⟩] := by decide +kernel
  exact ⟨he, hb ▸ hr, hd, m, h, dictionaryFile_reads_back.right _ _ m h l none⟩

end MenuOutline
