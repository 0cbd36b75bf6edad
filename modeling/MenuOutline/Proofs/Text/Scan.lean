import MenuOutline.Text.Scan
import Mathlib.Data.List.Infix

namespace MenuOutline.Text

section

variable {α : Type} {read : List Char → Option α} {p : Char → Prop} {c : Char}
  {l l' cs start : List Char} {a : α}

-- Nothing is read that starts in the text, with the rest behind it.
def Skips (read : List Char → Option α) (l cs : List Char) : Prop :=
  ∀ s, s ≠ [] → s <:+ l → read (s ++ cs) = none

theorem skips_nil : Skips read [] cs :=
  fun _ hn hs => absurd (List.suffix_nil.mp hs) hn

theorem skips_cons_iff : Skips read (c :: l) cs ↔ read (c :: l ++ cs) = none ∧ Skips read l cs := by
  refine ⟨fun h => ⟨h _ nofun List.suffix_rfl, fun s hn hs => h s hn (hs.trans (l.suffix_cons c))⟩,
    fun ⟨hc, hl⟩ s hn hs => ?_⟩
  cases List.suffix_cons_iff.mp hs
  case inl hs => exact hs ▸ hc
  case inr hs => exact hl s hn hs

theorem Skips.append (h : Skips read l (l' ++ cs)) (h' : Skips read l' cs) :
    Skips read (l ++ l') cs := by
  induction l
  case nil => exact h'
  case cons c l hi =>
    have ⟨hc, hl⟩ := skips_cons_iff.mp h
    refine skips_cons_iff.mpr ⟨?_, hi hl⟩
    simpa using hc

theorem Skips.map {β : Type} (h : Skips read l cs) (f : α → β) :
    Skips (fun cs => (read cs).map f) l cs :=
  fun s hn hs => Option.map_eq_none_iff.mpr (h s hn hs)

theorem Skips.find? (h : Skips read l cs) :
    find? read (l ++ cs) = (find? read cs).map (Prod.map (l ++ ·) id) := by
  induction l
  case nil =>
    rw [List.nil_append]
    cases Text.find? read cs <;> rfl
  case cons c l hi =>
    have ⟨hc, hl⟩ := skips_cons_iff.mp h
    rw [List.cons_append] at hc
    rw [List.cons_append, Text.find?, hc, hi hl]
    cases Text.find? read cs <;> rfl

theorem find?_of_read (h : read cs = some a) : find? read cs = some ([], a) := by
  cases cs <;> simp [find?, h]

theorem find?_eq_some_iff : find? read cs = some (start, a) ↔
    ∃ rest, cs = start ++ rest ∧ read rest = some a ∧ Skips read start rest := by
  constructor
  case mpr =>
    rintro ⟨rest, rfl, ha, hs⟩
    simp [hs.find?, find?_of_read ha]
  case mp =>
    intro h
    induction cs generalizing start <;> simp only [find?] at h
    case nil =>
      obtain ⟨_, ha, he⟩ := Option.map_eq_some_iff.mp h
      cases he
      exact ⟨[], rfl, ha, skips_nil⟩
    case cons c cs hi =>
      split at h
      case h_1 ha =>
        cases h
        exact ⟨c :: cs, rfl, ha, skips_nil⟩
      case h_2 hn =>
        obtain ⟨⟨start, a⟩, hf, he⟩ := Option.map_eq_some_iff.mp h
        cases he
        obtain ⟨rest, hcs, ha, hs⟩ := hi hf
        refine ⟨rest, congrArg (c :: ·) hcs, ha, skips_cons_iff.mpr ⟨?_, hs⟩⟩
        rwa [List.cons_append, ← hcs]

theorem find?_eq_none_iff (hn : read [] = none) : find? read cs = none ↔ Skips read cs [] := by
  induction cs
  case nil => exact iff_of_true (by simp [find?, hn]) skips_nil
  case cons c cs hi =>
    rw [skips_cons_iff, List.append_nil, ← hi, find?]
    cases read (c :: cs) <;> simp

theorem find?_map {β : Type} (f : α → β) (cs : List Char) :
    find? (fun cs => (read cs).map f) cs = (find? read cs).map (Prod.map id f) := by
  induction cs <;> simp only [find?]
  case nil => cases read [] <;> rfl
  case cons c cs hi =>
    cases read (c :: cs)
    case some => rfl
    case none =>
      rw [Option.map_none, hi]
      cases find? read cs <;> rfl

-- What is read starts with an opening parenthesis and a character of a certain kind.
structure Opens (read : List Char → Option α) (p : Char → Prop) : Prop where
  nil    : read [] = none
  first  : ∀ c cs, c ≠ '(' → read (c :: cs) = none
  second : ∀ c cs, ¬p c → read ('(' :: c :: cs) = none

theorem Opens.of_eq_some (h : ∀ cs a, read cs = some a → ∃ c l, cs = '(' :: c :: l ∧ p c) :
    Opens read p where
  nil    := Option.eq_none_iff_forall_ne_some.mpr fun a hr => by
    have ⟨_, _, he, _⟩ := h [] a hr
    contradiction
  first  := fun c cs hc => Option.eq_none_iff_forall_ne_some.mpr fun a hr => by
    have ⟨_, _, he, _⟩ := h (c :: cs) a hr
    exact hc (List.cons.inj he).left
  second := fun c cs hc => Option.eq_none_iff_forall_ne_some.mpr fun a hr => by
    have ⟨_, _, he, hd⟩ := h ('(' :: c :: cs) a hr
    exact hc <| (List.cons.inj (List.cons.inj he).right).left ▸ hd

-- Whatever comes behind it, nothing is read that starts in the text.
def Inert (read : List Char → Option α) (l : List Char) : Prop :=
  ∀ cs, Skips read l cs

theorem Inert.append (h : Inert read l) (h' : Inert read l') : Inert read (l ++ l') :=
  fun cs => (h _).append (h' cs)

theorem Opens.inert (h : Opens read p) (hl : '(' ∉ l) : Inert read l := by
  intro cs start hn hs
  cases start
  case nil => contradiction
  case cons c start =>
    exact h.first c _ fun hc => hl <| hs.subset <| hc ▸ .head _

theorem Opens.inert_cons (h : Opens read p) (hc : ¬p c) (hl : '(' ∉ c :: l) :
    Inert read ('(' :: c :: l) :=
  fun cs => skips_cons_iff.mpr ⟨h.second c _ hc, h.inert hl cs⟩

theorem Opens.map {β : Type} (h : Opens read p) (f : α → β) :
    Opens (fun cs => (read cs).map f) p where
  nil    := by rw [h.nil, Option.map_none]
  first  := fun c cs hc => by rw [h.first c cs hc, Option.map_none]
  second := fun c cs hc => by rw [h.second c cs hc, Option.map_none]

theorem Opens.find?_eq_none (h : Opens read p) (hl : Inert read l) : Text.find? read l = none :=
  (find?_eq_none_iff h.nil).mpr (hl [])

theorem Inert.isSome_find? (h : Inert read l) (cs : List Char) :
    (Text.find? read (l ++ cs)).isSome = (Text.find? read cs).isSome := by
  rw [(h cs).find?, Option.isSome_map]

theorem Skips.before {word : List Char} (h : Skips (after? word) l cs) :
    before word (l ++ cs) = l ++ before word cs := by
  rw [Text.before, h.find?, Text.before]
  cases Text.find? (after? word) cs <;> rfl

theorem Opens.before_eq_self {word : List Char} (h : Opens (after? word) p)
    (hi : Inert (after? word) cs) : Text.before word cs = cs := by
  rw [Text.before, h.find?_eq_none hi]
  rfl

theorem Skips.before_eq {word : List Char} (h : Skips (after? word) l (word ++ cs)) :
    Text.before word (l ++ (word ++ cs)) = l := by
  rw [Text.before, h.find?, find?_of_read (after?_eq_some_iff.mpr rfl)]
  exact List.append_nil l

end

variable {read : List Char → Option (List Char)} {token : List Char → Prop}
  {l cs m rest : List Char}

theorem erase_nil : erase read [] = [] := by
  rw [erase]

theorem Skips.erase (h : Skips read l cs) : erase read (l ++ cs) = l ++ erase read cs := by
  induction l
  case nil => rfl
  case cons c l hi =>
    have ⟨hc, hl⟩ := skips_cons_iff.mp h
    rw [List.cons_append] at hc
    rw [List.cons_append, Text.erase, hc]
    exact congrArg _ (hi hl)

theorem Skips.erase_eq_self (h : Skips read cs []) : Text.erase read cs = cs := by
  have he := h.erase
  rwa [List.append_nil, erase_nil, List.append_nil] at he

theorem Inert.erase_eq_self (h : Inert read l) : Text.erase read l = l :=
  (h []).erase_eq_self

theorem Opens.erase_cons {p : Char → Prop} {c : Char} (h : Opens read p) (hc : c ≠ '(') :
    Text.erase read (c :: cs) = c :: Text.erase read cs := by
  rw [Text.erase, h.first c cs hc]

-- What is read at the start of a text is a token, and the answer is what follows it.
structure Reads (read : List Char → Option (List Char)) (token : List Char → Prop) : Prop where
  ne_nil : ∀ m, token m → m ≠ []
  iff    : ∀ cs rest, read cs = some rest ↔ ∃ m, token m ∧ cs = m ++ rest

-- No token stands across the place where the two texts meet.
def Apart (token : List Char → Prop) (l cs : List Char) : Prop :=
  ∀ p q, p ≠ [] → q ≠ [] → p <:+ l → q <+: cs → ¬token (p ++ q)

namespace Apart

variable {a b l' : List Char}

-- The text starts with a character that is in no token behind the first one.
theorem of_head {inner : Char → Bool} (ht : ∀ m, token m → m.tail.all inner)
    (hc : cs.head?.all (!inner ·)) : Apart token l cs := by
  rintro p q hp hq - ⟨rest, rfl⟩ hm
  cases p
  case nil => contradiction
  case cons _ p =>
    cases q
    case nil => contradiction
    case cons c q =>
      have hi := List.all_eq_true.mp (ht _ hm) c (List.mem_append_right p <| .head q)
      simp [hi] at hc

theorem of_suffix (h : Apart token l cs) (hl : l' <:+ l) : Apart token l' cs :=
  fun p q hp hq hs => h p q hp hq (hs.trans hl)

theorem append (h : Apart token l (l' ++ cs)) (h' : Apart token l' cs) :
    Apart token (l ++ l') cs := by
  rintro p q hp hq ⟨r, hr⟩ hs hm
  cases List.append_eq_append_iff.mp hr
  case inl he =>
    have ⟨p', hl, he⟩ := he
    by_cases hp' : p' = []
    case pos => exact h' p q hp hq (by simp [he, hp']) hs hm
    case neg =>
      refine h p' (l' ++ q) hp' (List.append_ne_nil_of_right_ne_nil l' hq) ⟨r, hl.symm⟩ ?_ ?_
      · exact (List.prefix_append_right_inj l').mpr hs
      · rwa [← List.append_assoc, ← he]
  case inr he =>
    have ⟨r', _, hl⟩ := he
    exact h' p q hp hq ⟨r', hl.symm⟩ hs hm

-- A token in both texts together is in one of them.
theorem eq_append (h : Apart token l cs) (hm : token m) (he : l ++ cs = a ++ (m ++ b)) :
    (∃ b', l = a ++ (m ++ b')) ∨ ∃ a', a = l ++ a' ∧ cs = a' ++ (m ++ b) := by
  cases List.append_eq_append_iff.mp he
  case inl he => exact .inr he
  case inr he =>
    have ⟨p, hl, he⟩ := he
    cases List.append_eq_append_iff.mp he
    case inl he =>
      have ⟨b', hp, _⟩ := he
      exact .inl ⟨b', hp ▸ hl⟩
    case inr he =>
      have ⟨q, hpq, hq⟩ := he
      by_cases hn : q = []
      case pos => exact .inl ⟨[], by simp [hl, hpq, hn]⟩
      case neg =>
        by_cases hp : p = []
        case pos => exact .inr ⟨[], by simp [hl, hp], by simp [hpq, hp, hq]⟩
        case neg => exact absurd (hpq ▸ hm) <| h p q hp hn ⟨a, hl.symm⟩ ⟨b, hq.symm⟩

end Apart

namespace Reads

theorem read_append (h : Reads read token) (hm : token m) : read (m ++ rest) = some rest :=
  (h.iff _ _).mpr ⟨m, hm, rfl⟩

theorem read_nil (h : Reads read token) : read [] = none := by
  refine Option.eq_none_iff_forall_ne_some.mpr fun rest hr => ?_
  have ⟨m, hm, he⟩ := (h.iff _ _).mp hr
  exact h.ne_nil m hm (List.append_eq_nil_iff.mp he.symm).left

theorem opens {p : Char → Prop} (h : Reads read token)
    (ht : ∀ m, token m → ∃ c l, m = '(' :: c :: l ∧ p c) : Opens read p :=
  .of_eq_some fun cs rest hr => by
    have ⟨m, hm, he⟩ := (h.iff _ _).mp hr
    have ⟨c, l, hm, hc⟩ := ht m hm
    exact ⟨c, l ++ rest, by rw [he, hm]; rfl, hc⟩

theorem erase_append (h : Reads read token) (hm : token m) :
    erase read (m ++ rest) = erase read rest := by
  cases m
  case nil => exact absurd rfl (h.ne_nil _ hm)
  case cons c m =>
    have hr : read (c :: (m ++ rest)) = some rest := h.read_append hm
    rw [List.cons_append, erase, hr]
    simp

-- There is no token in a text where nothing is read.
theorem not_infix_of_skips (h : Reads read token) (hs : Skips read l cs) (hm : token m) :
    ¬m <:+: l := by
  rintro ⟨a, b, rfl⟩
  have hn := hs (m ++ b) (List.append_ne_nil_of_left_ne_nil (h.ne_nil m hm) b)
    ⟨a, by rw [List.append_assoc]⟩
  rw [List.append_assoc, h.read_append hm] at hn
  contradiction

theorem skips_of_not_infix (h : Reads read token) (hn : ∀ m, token m → ¬m <:+: cs) :
    Skips read cs [] := by
  intro start _ ⟨a, ha⟩
  refine Option.eq_none_iff_forall_ne_some.mpr fun rest hr => ?_
  have ⟨m, hm, he⟩ := (h.iff _ _).mp hr
  rw [List.append_nil] at he
  exact hn m hm ⟨a, rest, by rw [← ha, he, List.append_assoc]⟩

-- From one token to the next: up to the first one the text is kept.
@[elab_as_elim]
theorem induction {motive : List Char → Prop} (h : Reads read token)
    (clean : ∀ cs, (∀ m, token m → ¬m <:+: cs) → motive cs)
    (token : ∀ a m rest, token m → Skips read a (m ++ rest) → motive rest → motive (a ++ m ++ rest))
    (cs : List Char) : motive cs := by
  induction hn : cs.length using Nat.strongRecOn generalizing cs
  case ind n hi =>
    cases hf : find? read cs
    case none =>
      have hs := (find?_eq_none_iff h.read_nil).mp hf
      exact clean cs fun m hm => h.not_infix_of_skips hs hm
    case some found =>
      have ⟨start, hcs, hr, hs⟩ := find?_eq_some_iff.mp hf
      have ⟨m, hm, he⟩ := (h.iff _ _).mp hr
      rw [hcs, he, ← List.append_assoc]
      rw [he] at hs
      refine token _ _ _ hm hs (hi _ ?_ _ rfl)
      have := List.length_pos_iff.mpr (h.ne_nil m hm)
      rw [← hn, hcs, he, List.length_append, List.length_append]
      omega

theorem erase_of_skips (h : Reads read token) (hm : token m) (hs : Skips read l (m ++ rest)) :
    erase read (l ++ m ++ rest) = l ++ erase read rest := by
  rw [List.append_assoc, hs.erase, h.erase_append hm]

theorem erase_at_end (h : Reads read token) (hl : Inert read l) (hm : token m) :
    erase read (l ++ m) = l := by
  have he := h.erase_of_skips hm (hl (m ++ []))
  rwa [List.append_nil, erase_nil, List.append_nil] at he

theorem read_append_of_apart (h : Reads read token) (ha : Apart token l cs) (hn : l ≠ []) :
    read (l ++ cs) = (read l).map (· ++ cs) := by
  refine Option.ext fun rest => ?_
  rw [Option.map_eq_some_iff, h.iff]
  constructor
  case mp =>
    intro ⟨m, hm, he⟩
    cases ha.eq_append (a := []) hm he
    case inl hl =>
      have ⟨b', hl⟩ := hl
      refine ⟨b', (h.iff _ _).mpr ⟨m, hm, hl⟩, ?_⟩
      rw [hl] at he
      simpa using he
    case inr hl =>
      have ⟨a', hl, _⟩ := hl
      exact absurd (List.append_eq_nil_iff.mp hl.symm).left hn
  case mpr =>
    intro ⟨rest', hr, he⟩
    have ⟨m, hm, hl⟩ := (h.iff _ _).mp hr
    exact ⟨m, hm, by simp [hl, ← he]⟩

theorem skips_append (h : Reads read token) (ha : Apart token (l ++ cs) rest)
    (hs : Skips read l cs) : Skips read l (cs ++ rest) := by
  intro start hn hl
  have hl' : start ++ cs <:+ l ++ cs := by
    have ⟨a, ha⟩ := hl
    exact ⟨a, by simp [← ha]⟩
  rw [← List.append_assoc, h.read_append_of_apart (ha.of_suffix hl') (by simp [hn]), hs _ hn hl]
  rfl

theorem erase_eq_self (h : Reads read token) (hn : ∀ m, token m → ¬m <:+: cs) :
    erase read cs = cs :=
  (h.skips_of_not_infix hn).erase_eq_self

theorem erase_append_of_apart (h : Reads read token) (ha : Apart token l cs) :
    erase read (l ++ cs) = erase read l ++ erase read cs := by
  induction l using h.induction
  case clean l hn =>
    have hs := h.skips_append (by rwa [List.append_nil]) (h.skips_of_not_infix hn)
    rw [List.nil_append] at hs
    rw [hs.erase, h.erase_eq_self hn]
  case token a m rest hm hs hi =>
    have hs' := h.skips_append (by rwa [← List.append_assoc]) hs
    rw [List.append_assoc] at hs'
    rw [List.append_assoc, h.erase_of_skips hm hs', h.erase_of_skips hm hs,
      hi (ha.of_suffix (List.suffix_append _ _)), List.append_assoc]

theorem erase_sublist (h : Reads read token) (cs : List Char) : (erase read cs).Sublist cs := by
  induction cs using h.induction
  case clean cs hn => rw [h.erase_eq_self hn]
  case token a m rest hm hs hi =>
    rw [h.erase_of_skips hm hs, List.append_assoc]
    exact (hi.trans <| List.sublist_append_right m rest).append_left a

-- Only a text without tokens is kept as it is.
theorem erase_eq_self_iff (h : Reads read token) :
    erase read cs = cs ↔ ∀ m, token m → ¬m <:+: cs := by
  refine ⟨fun he => ?_, h.erase_eq_self⟩
  induction cs using h.induction
  case clean hn => exact hn
  case token a m rest hm hs _ =>
    rw [h.erase_of_skips hm hs, List.append_assoc] at he
    have hl := congrArg List.length (List.append_cancel_left he)
    have hr := (h.erase_sublist rest).length_le
    have := List.length_pos_iff.mpr (h.ne_nil m hm)
    rw [List.length_append] at hl
    omega

end Reads

variable {word : List Char}

theorem reads_after? (hn : word ≠ []) : Reads (after? word) (· = word) where
  ne_nil := fun _ hm => hm ▸ hn
  iff    := fun cs rest => by simp [after?_eq_some_iff]

theorem opens_after? (c : Char) (l : List Char) : Opens (after? ('(' :: c :: l)) (· = c) :=
  (reads_after? <| List.cons_ne_nil _ _).opens fun _ hm => ⟨c, l, hm, rfl⟩

theorem occurs_iff (hn : word ≠ []) : occurs word cs ↔ word <:+: cs := by
  have hw := reads_after? hn
  constructor
  case mp =>
    intro h
    have ⟨(start, rest), hf⟩ := Option.isSome_iff_exists.mp h
    have ⟨_, hc, hr, _⟩ := find?_eq_some_iff.mp hf
    exact ⟨start, rest, by rw [hc, after?_eq_some_iff.mp hr, List.append_assoc]⟩
  case mpr =>
    intro h
    refine Option.isSome_iff_ne_none.mpr fun hf => ?_
    exact hw.not_infix_of_skips ((find?_eq_none_iff hw.read_nil).mp hf) rfl h

-- What follows the text before the first place where a word stands.
theorem exists_before (word cs : List Char) : ∃ rest, cs = before word cs ++ rest ∧
    (rest = [] ∨ ∃ r, rest = word ++ r) ∧
    (word ≠ [] → Skips (after? word) (before word cs) rest) := by
  rw [before]
  cases hf : find? (after? word) cs
  case none =>
    refine ⟨[], (List.append_nil cs).symm, .inl rfl, fun hn => ?_⟩
    exact (find?_eq_none_iff (reads_after? hn).read_nil).mp hf
  case some found =>
    have ⟨start, r⟩ := found
    have ⟨rest, hc, hr, hs⟩ := find?_eq_some_iff.mp hf
    exact ⟨rest, hc, .inr ⟨r, after?_eq_some_iff.mp hr⟩, fun _ => hs⟩

-- Whatever comes behind a word, the text before the first place is found in what comes in front.
theorem before_append (hn : word ≠ []) (h : Apart (· = word) l (word ++ rest)) :
    before word (l ++ (word ++ rest)) = before word l := by
  have hw := reads_after? hn
  have ⟨rest', hl, hr, hs⟩ := exists_before word l
  have hs := hw.skips_append (hl ▸ h) (hs hn)
  cases hr
  case inl hr =>
    rw [hr, List.append_nil] at hl
    rw [hr, ← hl] at hs
    rw [← hl, hs.before_eq]
  case inr hr =>
    have ⟨r, hr⟩ := hr
    rw [hr, List.append_assoc] at hs
    conv_lhs => rw [hl, hr, List.append_assoc, List.append_assoc, hs.before_eq]

end MenuOutline.Text
