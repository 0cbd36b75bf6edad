import MenuOutline.Proofs.Literal
import MenuOutline.Proofs.Text.Automaton

namespace MenuOutline.Code

-- What the code of the generated pages is made of.
inductive Token where
  | comment (text : List Char)
  -- A literal, its inside as it is written.
  | literal (quote : Char) (inside : List Char)
  | word (name : List Char)
  | sign (c : Char)
  -- The end of the code.
  | close
deriving DecidableEq, Repr

-- Whether a dollar sign stands in a literal without a backslash of its own.
def Token.hasBareDollar : Token → Bool
  | .literal _ inside => Literal.hasBareDollar inside
  | _ => false

-- What has been read of a token that is not complete.
inductive Mode where
  | code
  | word (name : List Char)
  -- A sign that means something else together with the one after it.
  | sign (c : Char)
  | comment (text : List Char)
  | literal (quote : Char) (inside : List Char)
  -- Behind a backslash in a literal.
  | escaped (quote : Char) (inside : List Char)
  | closed
deriving DecidableEq, Repr

def isWordChar (c : Char) : Bool :=
  c.isAlphanum || c == '_' || c == '$'

-- Reads the first character of a token.
def start (c : Char) : Mode × List Token :=
  if c.isWhitespace then (.code, [])
  else if isWordChar c then (.word [c], [])
  else if c = '"' ∨ c = '\'' then (.literal c [], [])
  else if c = '/' ∨ c = '?' then (.sign c, [])
  else (.code, [.sign c])

-- Reads a character. A comment ends with its line or with the code, and a literal at the first
-- quote of its kind that has no backslash before it.
def step : Mode → Char → Mode × List Token
  | .code, c => start c
  | .word name, c =>
    if isWordChar c then (.word (name ++ [c]), [])
    else ((start c).1, .word name :: (start c).2)
  | .sign d, c =>
    if d = '/' ∧ c = '/' then (.comment [], [])
    else if d = '?' ∧ c = '>' then (.closed, [.close])
    else ((start c).1, .sign d :: (start c).2)
  | .comment text, c =>
    if c = '\n' ∨ c = '\r' then (.code, [.comment text])
    else if c = '>' ∧ text.getLast? = some '?' then (.closed, [.comment text.dropLast, .close])
    else (.comment (text ++ [c]), [])
  | .literal quote inside, c =>
    if c = quote then (.code, [.literal quote inside])
    else if c = '\\' then (.escaped quote (inside ++ [c]), [])
    else (.literal quote (inside ++ [c]), [])
  | .escaped quote inside, c => (.literal quote (inside ++ [c]), [])
  | .closed, _ => (.closed, [])

abbrev Reads : Mode → List Char → Mode → List Token → Prop :=
  Text.Runs step

def tokens (cs : List Char) : List Token :=
  (Text.run step .code cs).2

variable {special : List Char} {quote : Char}

theorem reads_escape (hq : quote ∈ special) (hb : '\\' ∈ special) (hn : quote ≠ '\\')
    (inside cs : List Char) : Reads (.literal quote inside) (Literal.escape special cs)
      (.literal quote (inside ++ Literal.escape special cs)) [] := by
  induction cs generalizing inside
  case nil =>
    have he : Literal.escape special [] = [] := rfl
    rw [he, List.append_nil]
    exact .refl _
  case cons c cs hi =>
    by_cases h : c ∈ special
    case pos =>
      have hs : step (.literal quote inside) '\\' = (.escaped quote (inside ++ ['\\']), []) := by
        simp [step, hn.symm]
      have hs' : step (.escaped quote (inside ++ ['\\'])) c =
          (.literal quote (inside ++ ['\\'] ++ [c]), []) := rfl
      have hr := hi (inside ++ ['\\'] ++ [c])
      have he : inside ++ ['\\'] ++ [c] ++ Literal.escape special cs =
          inside ++ '\\' :: c :: Literal.escape special cs := by simp
      rw [he] at hr
      rw [Literal.escape_cons_of_mem h]
      exact .cons hs <| .cons hs' hr
    case neg =>
      have hcq : c ≠ quote := fun he => h (he ▸ hq)
      have hcb : c ≠ '\\'  := fun he => h (he ▸ hb)
      have hs : step (.literal quote inside) c = (.literal quote (inside ++ [c]), []) := by
        simp [step, hcq, hcb]
      have hr := hi (inside ++ [c])
      rw [List.append_assoc] at hr
      rw [Literal.escape_cons_of_notMem h]
      exact .cons hs hr

-- No character of a text ends the literal that it is written into.
theorem reads_literal (hq : quote ∈ special) (hb : '\\' ∈ special)
    (hs : quote = '"' ∨ quote = '\'') (cs : List Char) :
    Reads .code (quote :: (Literal.escape special cs ++ [quote])) .code
      [.literal quote (Literal.escape special cs)] := by
  have hn : quote ≠ '\\' := by obtain rfl | rfl := hs <;> decide
  have ho : step .code quote = (.literal quote [], []) := by obtain rfl | rfl := hs <;> rfl
  have hc : step (.literal quote (Literal.escape special cs)) quote =
      (.code, [.literal quote (Literal.escape special cs)]) := by simp [step]
  exact .cons ho <| (reads_escape hq hb hn [] cs).append <| .cons hc <| .refl _

theorem reads_double (s : String) : Reads .code (Literal.double s).toList .code
    [.literal '"' (Literal.escape Literal.doubleSpecial s.toList)] := by
  have hq : '"' ∈ Literal.doubleSpecial := by decide
  have h := reads_literal hq (by decide) (.inl rfl) s.toList
  simpa [Literal.double, Literal.inDouble] using h

theorem reads_single (s : String) : Reads .code (Literal.single s).toList .code
    [.literal '\'' (Literal.escape Literal.singleSpecial s.toList)] := by
  have hq : '\'' ∈ Literal.singleSpecial := by decide
  have h := reads_literal hq (by decide) (.inr rfl) s.toList
  simpa [Literal.single, Literal.inSingle] using h

-- Whether a text can stand in a comment that ends with its line.
def FitsComment (text : List Char) : Prop :=
  '\n' ∉ text ∧ '\r' ∉ text ∧ ¬['?', '>'] <:+: text

theorem FitsComment.blank_cons {text : List Char} (h : FitsComment text) :
    FitsComment (' ' :: text) := by
  have ⟨hn, hr, hc⟩ := h
  refine ⟨by simp [hn], by simp [hr], fun hi => ?_⟩
  cases List.infix_cons_iff.mp hi
  case inl hp => simp at hp
  case inr hi => exact hc hi

theorem reads_comment {before after : List Char} (h : FitsComment (before ++ after)) :
    Reads (.comment before) after (.comment (before ++ after)) [] := by
  induction after generalizing before
  case nil =>
    rw [List.append_nil]
    exact .refl _
  case cons c cs hi =>
    have ⟨hn, hr, hc⟩ := h
    have hcn : c ≠ '\n' := by rintro rfl; simp at hn
    have hcr : c ≠ '\r' := by rintro rfl; simp at hr
    have hcc : ¬(c = '>' ∧ before.getLast? = some '?') := by
      rintro ⟨rfl, hl⟩
      have ⟨bs, hb⟩ := List.getLast?_eq_some_iff.mp hl
      exact hc ⟨bs, cs, by simp [hb]⟩
    have hs : step (.comment before) c = (.comment (before ++ [c]), []) := by
      simp only [step, hcn, hcr, hcc, or_self, if_false]
    rw [List.append_cons] at h ⊢
    exact .cons hs <| hi h

theorem reads_lineEnd (text : List Char) :
    Reads (.comment text) "\n".toList .code [.comment text] :=
  rfl

end MenuOutline.Code
