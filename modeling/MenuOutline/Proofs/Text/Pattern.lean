import MenuOutline.Text.Pattern.Search
import Mathlib.Data.List.Basic

namespace MenuOutline.Text.Pattern

variable {a b d : Pattern} {p : Char → Bool} {word m m' cs rest : List Char} {n : Nat}
  {read : List Char → List (List Char × List Char)}

theorem matches_one_iff : (one p).Matches m ↔ ∃ c, p c ∧ m = [c] := by
  refine ⟨fun h => ?_, fun ⟨c, hc, hm⟩ => hm ▸ .one hc⟩
  cases h
  case one c hc => exact ⟨c, hc, rfl⟩

theorem matches_char_iff {c : Char} : (char c).Matches m ↔ m = [c] := by
  simp [char, matches_one_iff]

theorem matches_empty_iff : empty.Matches m ↔ m = [] :=
  ⟨fun h => by cases h; rfl, fun h => h ▸ .empty⟩

theorem matches_seq_assoc : ((a.seq b).seq d).Matches m ↔ (a.seq (b.seq d)).Matches m := by
  constructor
  case mp =>
    intro h
    have ⟨_, _, hm, h, hd⟩ := matches_seq_iff.mp h
    have ⟨_, _, hx, ha, hb⟩ := matches_seq_iff.mp h
    rw [hm, hx, List.append_assoc]
    exact .seq ha <| .seq hb hd
  case mpr =>
    intro h
    have ⟨_, _, hm, ha, h⟩ := matches_seq_iff.mp h
    have ⟨_, _, hx, hb, hd⟩ := matches_seq_iff.mp h
    rw [hm, hx, ← List.append_assoc]
    exact .seq (.seq ha hb) hd

theorem matches_literal_iff : (literal word).Matches m ↔ m = word := by
  induction word generalizing m
  case nil            => exact matches_empty_iff
  case cons c word hi =>
    change (seq (char c) (literal word)).Matches m ↔ _
    simp [matches_seq_iff, matches_char_iff, hi]

theorem matches_star_one_iff : (star (one p)).Matches m ↔ m.all p := by
  induction m
  case nil          => exact iff_of_true .starNil rfl
  case cons c m hi =>
    rw [List.all_cons, Bool.and_eq_true, ← hi]
    constructor
    case mp =>
      intro h
      have ⟨xs, ys, hm, hx, hy⟩ := matches_star_cons h
      have ⟨_, hc, hx⟩ := matches_one_iff.mp hx
      obtain ⟨rfl, rfl⟩ := List.cons.inj hx
      exact ⟨hc, hm ▸ hy⟩
    case mpr => exact fun ⟨hc, hm⟩ => .starCons (.one hc) hm

theorem matches_plus_one_iff : (plus (one p)).Matches m ↔ m ≠ [] ∧ m.all p := by
  rw [plus, matches_seq_iff]
  simp only [matches_one_iff, matches_star_one_iff]
  constructor
  case mp =>
    rintro ⟨_, ys, rfl, ⟨c, hc, rfl⟩, hy⟩
    exact ⟨nofun, by simp [hc, hy]⟩
  case mpr =>
    intro ⟨hn, hm⟩
    cases m
    case nil      => contradiction
    case cons c m =>
      have ⟨hc, hm⟩ := Bool.and_eq_true_iff.mp hm
      exact ⟨[c], m, rfl, ⟨c, hc, rfl⟩, hm⟩

-- The matches that are met at the start of a text are all there are.
def Meets (read : List Char → List (List Char × List Char)) (a : Pattern) : Prop :=
  ∀ m cs rest, (m, rest) ∈ read cs ↔ a.Matches m ∧ cs = m ++ rest

namespace Meets

theorem of_mem_repeated (h : Meets read a) (hm : (m, rest) ∈ repeated read n cs) :
    (star a).Matches m ∧ cs = m ++ rest := by
  induction n generalizing m cs <;>
    simp only [repeated, List.mem_append, List.mem_flatMap, List.mem_map, List.mem_filter,
      List.mem_singleton, Prod.exists, Prod.mk.injEq] at hm
  case zero =>
    obtain ⟨rfl, rfl⟩ := hm
    exact ⟨.starNil, rfl⟩
  case succ hi =>
    cases hm
    case inl hm =>
      obtain ⟨m, cs', ⟨hm, _⟩, ms, _, hms, rfl, rfl⟩ := hm
      obtain ⟨hx, rfl⟩ := (h m cs cs').mp hm
      obtain ⟨hxs, rfl⟩ := hi hms
      exact ⟨.starCons hx hxs, (List.append_assoc ..).symm⟩
    case inr hm =>
      obtain ⟨rfl, rfl⟩ := hm
      exact ⟨.starNil, rfl⟩

-- A repetition takes a character, so there are no more of them than characters.
theorem mem_repeated (h : Meets read a) (hm : (star a).Matches m) (hn : m.length ≤ n) :
    (m, rest) ∈ repeated read n (m ++ rest) := by
  induction n generalizing m
  case zero =>
    rw [List.length_eq_zero_iff.mp (Nat.le_zero.mp hn)]
    exact .head _
  case succ n hi =>
    cases m
    case nil => exact List.mem_append_right _ (.head _)
    case cons c m =>
      obtain ⟨xs, ys, rfl, hx, hy⟩ := matches_star_cons hm
      have hx : (c :: xs, ys ++ rest) ∈ read (c :: (xs ++ ys) ++ rest) :=
        (h _ _ _).mpr ⟨hx, by simp⟩
      have hy : (ys, rest) ∈ repeated read n (ys ++ rest) := by
        refine hi hy ?_
        rw [List.length_cons, List.length_append] at hn
        omega
      exact List.mem_append_left _ <| List.mem_flatMap.mpr
        ⟨_, List.mem_filter.mpr ⟨hx, rfl⟩, List.mem_map.mpr ⟨_, hy, rfl⟩⟩

end Meets

theorem meets_leading (a : Pattern) : Meets a.leading a := by
  induction a <;> intro m cs rest
  case never => exact ⟨nofun, nofun⟩
  case empty =>
    rw [leading, List.mem_singleton, Prod.mk.injEq, matches_empty_iff]
    constructor <;> (rintro ⟨rfl, rfl⟩; exact ⟨rfl, rfl⟩)
  case one p =>
    rw [matches_one_iff]
    cases cs
    case nil => exact ⟨nofun, fun ⟨⟨_, _, hm⟩, h⟩ => by simp [hm] at h⟩
    case cons c cs =>
      rw [leading]
      constructor
      case mp =>
        intro h
        split at h
        case isTrue hc =>
          obtain ⟨rfl, rfl⟩ := Prod.mk.inj <| List.mem_singleton.mp h
          exact ⟨⟨c, hc, rfl⟩, rfl⟩
        case isFalse => contradiction
      case mpr =>
        rintro ⟨⟨d, hd, rfl⟩, h⟩
        obtain ⟨rfl, rfl⟩ := List.cons.inj h
        rw [if_pos hd]
        exact .head _
  case seq ha hb =>
    simp only [leading, List.mem_flatMap, List.mem_map, Prod.exists, Prod.mk.injEq, ha _ _ _,
      hb _ _ _, matches_seq_iff]
    constructor
    case mp =>
      rintro ⟨xs, _, ⟨hx, rfl⟩, ys, _, ⟨hy, rfl⟩, rfl, rfl⟩
      exact ⟨⟨xs, ys, rfl, hx, hy⟩, (List.append_assoc ..).symm⟩
    case mpr =>
      rintro ⟨⟨xs, ys, rfl, hx, hy⟩, rfl⟩
      exact ⟨xs, _, ⟨hx, List.append_assoc ..⟩, ys, rest, ⟨hy, rfl⟩, rfl, rfl⟩
  case alt ha hb =>
    rw [leading, List.mem_append, ha, hb, ← or_and_right]
    refine and_congr_left fun _ => ⟨fun h => h.elim .altLeft .altRight, fun h => ?_⟩
    cases h
    case altLeft h  => exact .inl h
    case altRight h => exact .inr h
  case star ha =>
    refine ⟨ha.of_mem_repeated, ?_⟩
    rintro ⟨hm, rfl⟩
    exact ha.mem_repeated hm (by simp)

-- Of the pattern's texts no more than one can start at a place.
def Determined (a : Pattern) : Prop :=
  ∀ m m' rest rest', a.Matches m → a.Matches m' → m ++ rest = m' ++ rest' → m = m'

-- The match that counts is then the only one.
theorem Determined.first?_eq_some_iff (h : Determined a) :
    a.first? cs = some (m, rest) ↔ a.Matches m ∧ cs = m ++ rest := by
  rw [← meets_leading a m cs rest]
  refine ⟨List.mem_of_mem_head?, fun hm => ?_⟩
  have ⟨hm', he'⟩ := (meets_leading a m cs rest).mp hm
  cases hf : a.leading cs
  case nil => simp [hf] at hm
  case cons found others =>
    have ⟨hm, he⟩ := (meets_leading a found.1 cs found.2).mp (hf ▸ .head _)
    have hs : found.1 = m := h _ _ _ _ hm hm' (he ▸ he')
    rw [hs, he', List.append_cancel_left_eq] at he
    simp [first?, hf, ← hs, he]

namespace Grouped

variable {a : Grouped} {c : Captured}

-- A group does not change what is matched.
theorem map_whole_leading (a : Grouped) (cs : List Char) :
    (a.leading cs).map Captured.whole = a.ungrouped.leading cs := by
  simp [leading, ungrouped, Pattern.leading, List.map_flatMap, Function.comp_def, Captured.whole,
    Captured.span]

theorem map_whole_first? (a : Grouped) (cs : List Char) :
    (a.first? cs).map Captured.whole = a.ungrouped.first? cs := by
  rw [first?, ← List.head?_map, map_whole_leading, Pattern.first?]

theorem matches_of_first? (h : a.first? cs = some c) :
    a.front.Matches c.front ∧ a.group.Matches c.group ∧ a.back.Matches c.back := by
  have hm := List.mem_of_mem_head? h
  simp only [leading, List.mem_flatMap, List.mem_map, Prod.exists, meets_leading _ _ _ _] at hm
  obtain ⟨_, _, ⟨hf, _⟩, _, _, ⟨hg, _⟩, _, _, ⟨hb, _⟩, rfl⟩ := hm
  exact ⟨hf, hg, hb⟩

end Grouped

end MenuOutline.Text.Pattern
