-- Patterns of whole texts: regular expressions over classes of characters, matched by derivatives.
-- Main statement: a pattern accepts a text exactly if the text is of the pattern's form.

namespace MenuOutline.Text

inductive Pattern where
  | never
  | empty
  | one (p : Char → Bool)
  | seq (a b : Pattern)
  | alt (a b : Pattern)
  | star (a : Pattern)

namespace Pattern

-- The texts of a pattern's form.
inductive Matches : Pattern → List Char → Prop
  | empty : Matches .empty []
  | one {p : Char → Bool} {c : Char} (h : p c) : Matches (.one p) [c]
  | seq {a b : Pattern} {cs ds : List Char} (ha : Matches a cs) (hb : Matches b ds) :
    Matches (.seq a b) (cs ++ ds)
  | altLeft {a b : Pattern} {cs : List Char} (h : Matches a cs) : Matches (.alt a b) cs
  | altRight {a b : Pattern} {cs : List Char} (h : Matches b cs) : Matches (.alt a b) cs
  | starNil {a : Pattern} : Matches (.star a) []
  | starCons {a : Pattern} {cs ds : List Char} (h : Matches a cs) (hs : Matches (.star a) ds) :
    Matches (.star a) (cs ++ ds)

def char (c : Char) : Pattern :=
  one (· == c)

-- One or more.
def plus (a : Pattern) : Pattern :=
  seq a (star a)

def matchesEmpty : Pattern → Bool
  | never | one _ => false
  | empty | star _ => true
  | seq a b => a.matchesEmpty && b.matchesEmpty
  | alt a b => a.matchesEmpty || b.matchesEmpty

-- A sequence, without the parts that add nothing.
def andThen : Pattern → Pattern → Pattern
  | never, _ | _, never => never
  | empty, b => b
  | a, b => seq a b

-- A choice, without the parts that add nothing.
def orElse : Pattern → Pattern → Pattern
  | never, b => b
  | a, never => a
  | a, b => alt a b

-- The pattern of what may follow a character.
def derivative (c : Char) : Pattern → Pattern
  | never | empty => never
  | one p => if p c then empty else never
  | seq a b =>
    let first := (a.derivative c).andThen b
    if a.matchesEmpty then first.orElse (b.derivative c) else first
  | alt a b => (a.derivative c).orElse (b.derivative c)
  | star a => (a.derivative c).andThen (star a)

def accepts (a : Pattern) (cs : List Char) : Bool :=
  (cs.foldl (fun a c => a.derivative c) a).matchesEmpty

theorem matches_nil_iff {a : Pattern} : a.Matches [] ↔ a.matchesEmpty := by
  constructor
  · intro h
    generalize hcs : [] = cs at h
    induction h with
    | empty | starNil => rfl
    | one => simp at hcs
    | seq _ _ ha hb =>
      obtain ⟨rfl, rfl⟩ := List.append_eq_nil_iff.1 hcs.symm
      simp [matchesEmpty, ha, hb]
    | altLeft _ ih => simp [matchesEmpty, ih hcs]
    | altRight _ ih => simp [matchesEmpty, ih hcs]
    | starCons => rfl
  · intro h
    induction a with
    | never | one => simp [matchesEmpty] at h
    | empty => exact .empty
    | seq a b iha ihb =>
      simp only [matchesEmpty, Bool.and_eq_true] at h
      exact .seq (iha h.1) (ihb h.2)
    | alt a b iha ihb =>
      simp only [matchesEmpty, Bool.or_eq_true] at h
      exact h.elim (fun h => .altLeft (iha h)) fun h => .altRight (ihb h)
    | star => exact .starNil

theorem matches_andThen_iff {a b : Pattern} {cs : List Char} :
    (a.andThen b).Matches cs ↔ (seq a b).Matches cs := by
  fun_cases andThen a b with
  | case1 b => exact ⟨nofun, fun h => by cases h with | seq h _ => cases h⟩
  | case2 a _ => exact ⟨nofun, fun h => by cases h with | seq _ h => cases h⟩
  | case3 b _ =>
    refine ⟨fun h => .seq .empty h, fun h => ?_⟩
    cases h with
    | seq ha hb => cases ha; exact hb
  | case4 => rfl

theorem matches_orElse_iff {a b : Pattern} {cs : List Char} :
    (a.orElse b).Matches cs ↔ a.Matches cs ∨ b.Matches cs := by
  fun_cases orElse a b with
  | case1 b => exact ⟨.inr, fun h => h.elim nofun id⟩
  | case2 a _ => exact ⟨.inl, fun h => h.elim id nofun⟩
  | case3 => exact ⟨fun h => by cases h with
    | altLeft h => exact .inl h
    | altRight h => exact .inr h, fun h => h.elim .altLeft .altRight⟩

theorem matches_seq_iff {a b : Pattern} {cs : List Char} :
    (seq a b).Matches cs ↔ ∃ xs ys, cs = xs ++ ys ∧ a.Matches xs ∧ b.Matches ys :=
  ⟨fun h => by cases h with | seq ha hb => exact ⟨_, _, rfl, ha, hb⟩,
    fun ⟨_, _, h, ha, hb⟩ => h ▸ .seq ha hb⟩

theorem matches_star_cons {a : Pattern} {c : Char} {cs : List Char}
    (h : (star a).Matches (c :: cs)) :
    ∃ xs ys, cs = xs ++ ys ∧ a.Matches (c :: xs) ∧ (star a).Matches ys := by
  generalize hs : star a = s at h
  generalize hcs : c :: cs = ds at h
  induction h with
  | starNil => simp at hcs
  | @starCons b xs ys hx hy _ ih =>
    cases hs
    cases xs with
    | nil => exact ih rfl hcs
    | cons x xs =>
      simp only [List.cons_append, List.cons.injEq] at hcs
      exact ⟨xs, ys, hcs.2, hcs.1 ▸ hx, hy⟩
  | empty | one | seq | altLeft | altRight => simp at hs

theorem matches_derivative_iff {a : Pattern} {c : Char} {cs : List Char} :
    (a.derivative c).Matches cs ↔ a.Matches (c :: cs) := by
  induction a generalizing cs with
  | never => exact ⟨nofun, nofun⟩
  | empty => exact ⟨nofun, nofun⟩
  | one p =>
    simp only [derivative]
    split
    · rename_i hp
      exact ⟨fun h => by cases h; exact .one hp, fun h => by cases h; exact .empty⟩
    · rename_i hp
      exact ⟨nofun, fun h => by cases h with | one h => exact absurd h hp⟩
  | seq a b iha ihb =>
    have hseq : (seq a b).Matches (c :: cs) ↔
        (seq (a.derivative c) b).Matches cs ∨ (a.Matches [] ∧ b.Matches (c :: cs)) := by
      simp only [matches_seq_iff, iha]
      constructor
      · rintro ⟨xs, ys, h, ha, hb⟩
        cases xs with
        | nil => exact .inr ⟨ha, by simpa [h] using hb⟩
        | cons x xs =>
          simp only [List.cons_append, List.cons.injEq] at h
          exact .inl ⟨xs, ys, h.2, h.1 ▸ ha, hb⟩
      · rintro (⟨xs, ys, h, ha, hb⟩ | ⟨ha, hb⟩)
        · exact ⟨c :: xs, ys, by simp [h], ha, hb⟩
        · exact ⟨[], c :: cs, rfl, ha, hb⟩
    simp only [derivative]
    split
    · rename_i he
      simp [matches_orElse_iff, matches_andThen_iff, hseq, ihb, matches_nil_iff, he]
    · rename_i he
      simp [matches_andThen_iff, hseq, matches_nil_iff, he]
  | alt a b iha ihb =>
    simp only [derivative, matches_orElse_iff, iha, ihb]
    exact ⟨fun h => h.elim .altLeft .altRight, fun h => by cases h with
      | altLeft h => exact .inl h
      | altRight h => exact .inr h⟩
  | star a ih =>
    simp only [derivative, matches_andThen_iff, matches_seq_iff, ih]
    constructor
    · rintro ⟨xs, ys, rfl, hx, hy⟩
      exact .starCons hx hy
    · exact matches_star_cons

theorem accepts_iff {a : Pattern} {cs : List Char} : a.accepts cs ↔ a.Matches cs := by
  induction cs generalizing a with
  | nil => exact matches_nil_iff.symm
  | cons c cs ih => exact ih.trans matches_derivative_iff

end Pattern

end MenuOutline.Text
