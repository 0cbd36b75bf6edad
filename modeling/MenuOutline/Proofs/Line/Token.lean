import MenuOutline.Line.Seo
import MenuOutline.Proofs.Text.Pattern
import MenuOutline.Proofs.Text.Scan
import Mathlib

namespace MenuOutline

namespace Text

variable {ws cs rest : List Char} {c : Char}

theorem dropFolded?_eq_some_iff :
    dropFolded? ws cs = some rest ↔ ∃ m, m.map foldCase = ws ∧ cs = m ++ rest := by
  induction ws generalizing cs
  case nil => simp [dropFolded?]
  case cons w ws hi =>
    cases cs
    case nil => simp [dropFolded?]
    case cons c cs =>
      rw [dropFolded?]
      constructor
      case mp =>
        intro h
        split at h
        case isFalse    => contradiction
        case isTrue hc =>
          obtain ⟨m, hm, he⟩ := hi.mp h
          exact ⟨c :: m, by simp [hc, hm], by simp [he]⟩
      case mpr =>
        rintro ⟨m, hm, he⟩
        cases m
        case nil      => contradiction
        case cons d m =>
          obtain ⟨hd, hm⟩ := List.cons.inj hm
          obtain ⟨hc, he⟩ := List.cons.inj he
          rw [if_pos (hc ▸ hd)]
          exact hi.mpr ⟨m, hm, he⟩

theorem foldCase_of_isBlank (h : isBlank c) : foldCase c = c := by
  have hu : c.isUpper = false := by
    refine Bool.eq_false_iff.mpr fun hu => ?_
    have hu : 65 ≤ c.toNat ∧ c.toNat ≤ 90 := by
      simpa [Char.isUpper, UInt32.le_iff_toNat_le] using hu
    simp only [isBlank, Bool.or_eq_true, Bool.and_eq_true, decide_eq_true_eq, beq_iff_eq] at h
    omega
  rw [foldCase, if_neg (by rintro rfl; contradiction), if_neg (by rintro rfl; contradiction)]
  exact Char.toLower_eq_of_not_isUpper (by simp [hu])

theorem foldCase_ne_parenthesis (h : c ≠ '(') : foldCase c ≠ '(' := by
  unfold foldCase
  split
  · decide
  · split
    · decide
    · by_cases hu : c.isUpper
      case neg => rwa [Char.toLower_eq_of_not_isUpper hu]
      case pos =>
        have hl : c.toLower.isLower := by simp [Char.isAlpha, hu]
        intro he
        rw [he] at hl
        contradiction

theorem foldCase_eq_parenthesis_iff : foldCase c = '(' ↔ c = '(' :=
  ⟨fun h => by_contra fun hc => foldCase_ne_parenthesis hc h, by rintro rfl; rfl⟩

end Text

namespace Markers

-- One or two stars in parentheses.
inductive IsStar : List Char → Prop
  | single : IsStar singleStar
  | double : IsStar doubleStar

-- The marker of pages kept by hand, in letters of any case.
def IsByHand (m : List Char) : Prop :=
  m.map Text.foldCase = byHand

instance : DecidablePred IsByHand :=
  fun _ => inferInstanceAs (Decidable (_ = _))

variable {m cs rest : List Char} {c : Char}

theorem reads_stars : Text.Reads afterStars? IsStar where
  ne_nil := fun _ hm => by cases hm <;> nofun
  iff    := fun cs rest => by
    rw [afterStars?, Option.or_eq_some_iff, Option.eq_none_iff_forall_ne_some]
    simp only [ne_eq, Text.after?_eq_some_iff]
    constructor
    case mp => exact fun h => h.elim (⟨_, .double, ·⟩) (⟨_, .single, ·.right⟩)
    case mpr =>
      rintro ⟨m, hm, rfl⟩
      cases hm
      case double => exact .inl rfl
      case single => exact .inr ⟨fun _ h => by simp [singleStar, doubleStar] at h, rfl⟩

theorem reads_byHand : Text.Reads afterByHand? IsByHand where
  ne_nil := by rintro _ hm rfl; contradiction
  iff    := fun _ _ => Text.dropFolded?_eq_some_iff

-- No character but the first can start a token, and none is blank.
def isInner (c : Char) : Bool :=
  c ≠ '(' && !Text.isBlank c

theorem IsStar.isInner (h : IsStar m) : m.tail.all isInner := by
  cases h <;> decide

theorem IsByHand.isInner (h : IsByHand m) : m.tail.all isInner := by
  refine List.all_eq_true.mpr fun c hc => ?_
  have hm : Text.foldCase c ∈ byHand.tail := by
    rw [← h, ← List.map_tail]
    exact List.mem_map_of_mem hc
  have hb : byHand.tail.all Markers.isInner := by decide
  have hi := List.all_eq_true.mp hb _ hm
  simp only [Markers.isInner, Bool.and_eq_true, decide_eq_true_eq, Bool.not_eq_true'] at hi ⊢
  refine ⟨fun hc => hi.left <| Text.foldCase_eq_parenthesis_iff.mpr hc, ?_⟩
  refine Bool.eq_false_iff.mpr fun hc => ?_
  rw [Text.foldCase_of_isBlank hc, hc] at hi
  exact Bool.noConfusion hi.right

theorem notMem_parenthesis (h : cs.all isInner) : '(' ∉ cs :=
  fun hc => absurd (List.all_eq_true.mp h _ hc) (by decide)

theorem IsByHand.exists_body (h : IsByHand m) : ∃ c body, m = '(' :: c :: body ∧
    (c :: body).all Markers.isInner ∧ Text.foldCase c = 'a' := by
  have hm : m.map Text.foldCase = '(' :: 'a' :: byHand.drop 2 := h
  have ⟨p, rest, hs, hp, hr⟩ := List.map_eq_cons_iff.mp hm
  have ⟨c, body, hb, hc, _⟩ := List.map_eq_cons_iff.mp hr
  rw [Text.foldCase_eq_parenthesis_iff] at hp
  rw [hp, hb] at hs
  have hi := h.isInner
  rw [hs] at hi
  exact ⟨c, body, hs, hi, hc⟩

theorem opens_stars : Text.Opens afterStars? (· = '*') :=
  reads_stars.opens fun _ hm => by cases hm <;> exact ⟨_, _, rfl, rfl⟩

theorem opens_byHand : Text.Opens afterByHand? (Text.foldCase · = 'a') :=
  reads_byHand.opens fun _ hm =>
    have ⟨c, body, hb, _, hc⟩ := hm.exists_body
    ⟨c, body, hb, hc⟩

theorem opens_doubleStar : Text.Opens (Text.after? doubleStar) (· = '*') :=
  Text.opens_after? '*' _

theorem opens_seoOpener : Text.Opens (Text.after? seoOpener) (· = 'S') :=
  Text.opens_after? 'S' _

theorem opens_singleStar : Text.Opens (Text.after? singleStar) (· = '*') :=
  Text.opens_after? '*' _

theorem opens_loneStar : Text.Opens loneStar? (· = '*') where
  nil    := rfl
  first  := fun c cs hc => by rw [loneStar?, opens_singleStar.first c cs hc]
  second := fun c cs hc => by rw [loneStar?, opens_singleStar.second c cs hc]

theorem IsByHand.inert {α : Type} {read : List Char → Option α} (h : IsByHand m)
    (ho : Text.Opens read (· = '*')) : Text.Inert read m := by
  have ⟨c, body, hm, hi, hc⟩ := h.exists_body
  exact hm ▸ ho.inert_cons (by rintro rfl; contradiction) (notMem_parenthesis hi)

end Markers

namespace Seo

open Text (Pattern)

-- An annotation with its parentheses.
inductive IsAnnotation : List Char → Prop
  | mk {description : List Char} : description ≠ [] → ')' ∉ description →
    IsAnnotation (Markers.seoOpener ++ description ++ [')'])

variable {m m' cs description rest rest' : List Char}

theorem isAnnotation_iff : IsAnnotation (Markers.seoOpener ++ description ++ [')']) ↔
    description ≠ [] ∧ ')' ∉ description := by
  refine ⟨fun h => ?_, fun ⟨hn, hp⟩ => .mk hn hp⟩
  generalize hm : Markers.seoOpener ++ description ++ [')'] = m at h
  obtain ⟨hn, hp⟩ := h
  rw [List.append_cancel_right_eq, List.append_cancel_left_eq] at hm
  exact hm ▸ ⟨hn, hp⟩

theorem matches_notClosing_iff : notClosing.plus.Matches m ↔ m ≠ [] ∧ ')' ∉ m := by
  rw [notClosing, Pattern.matches_plus_one_iff]
  simp [List.forall_mem_ne']

theorem matches_removal_iff : removal.Matches m ↔ IsAnnotation m := by
  simp only [removal, Pattern.matches_seq_iff, Pattern.matches_literal_iff, matches_notClosing_iff,
    Pattern.matches_char_iff]
  constructor
  case mp =>
    rintro ⟨_, _, rfl, rfl, d, _, rfl, ⟨hn, hp⟩, rfl⟩
    exact List.append_assoc .. ▸ .mk hn hp
  case mpr =>
    rintro ⟨hn, hp⟩
    exact ⟨_, _, List.append_assoc .., rfl, _, _, rfl, ⟨hn, hp⟩, rfl⟩

-- Blanks in front of a group are characters of the description.
theorem matches_extraction_iff : extraction.ungrouped.Matches m ↔ IsAnnotation m := by
  simp only [extraction, Pattern.Grouped.ungrouped, Pattern.matches_seq_iff,
    Pattern.matches_literal_iff, Pattern.matches_star_one_iff, matches_notClosing_iff,
    Pattern.matches_char_iff]
  constructor
  case mp =>
    rintro ⟨_, _, rfl, ⟨_, bs, rfl, rfl, hb⟩, g, _, rfl, ⟨hn, hp⟩, rfl⟩
    have hbp : ')' ∉ bs := fun h => absurd (List.all_eq_true.mp hb _ h) (by decide)
    have ha : IsAnnotation (Markers.seoOpener ++ (bs ++ g) ++ [')']) :=
      .mk (List.append_ne_nil_of_right_ne_nil bs hn) (by simp [hbp, hp])
    simpa using ha
  case mpr =>
    rintro ⟨hn, hp⟩
    exact ⟨_, _, List.append_assoc .., ⟨_, [], (List.append_nil _).symm, rfl, rfl⟩, _, _, rfl,
      ⟨hn, hp⟩, rfl⟩

-- An annotation ends at its first closing parenthesis.
theorem IsAnnotation.eq_of_append_eq (h : IsAnnotation m) (h' : IsAnnotation m')
    (he : m ++ rest = m' ++ rest') : m = m' := by
  obtain ⟨_, hp⟩ := h
  obtain ⟨_, hp'⟩ := h'
  simp only [List.append_assoc, List.append_cancel_left_eq] at he
  rcases List.append_eq_append_iff.mp he with ⟨l, rfl, hl⟩ | ⟨l, rfl, hl⟩ <;> cases l
  all_goals simp_all

theorem determined_removal : removal.Determined :=
  fun _ _ _ _ h h' => (matches_removal_iff.mp h).eq_of_append_eq (matches_removal_iff.mp h')

theorem first?_removal_eq_some_iff :
    removal.first? cs = some (m, rest) ↔ IsAnnotation m ∧ cs = m ++ rest := by
  rw [determined_removal.first?_eq_some_iff, matches_removal_iff]

-- Both patterns have the same texts, of which only one can start at a place.
theorem map_whole_extraction (cs : List Char) :
    (extraction.first? cs).map Pattern.Captured.whole = removal.first? cs := by
  have hd : extraction.ungrouped.Determined := fun _ _ _ _ h h' =>
    (matches_extraction_iff.mp h).eq_of_append_eq (matches_extraction_iff.mp h')
  refine Option.ext fun ⟨m, rest⟩ => ?_
  rw [Pattern.Grouped.map_whole_first?, hd.first?_eq_some_iff, first?_removal_eq_some_iff,
    matches_extraction_iff]

theorem find?_extraction (cs : List Char) :
    (Text.find? extraction.first? cs).map (Prod.map id Pattern.Captured.whole) =
      Text.find? removal.first? cs := by
  rw [← Text.find?_map, funext map_whole_extraction]

theorem reads_annotations : Text.Reads removal.after? IsAnnotation where
  ne_nil := by rintro _ ⟨_, _⟩; nofun
  iff    := fun cs rest => by
    simp [Pattern.after?, first?_removal_eq_some_iff]

theorem opens_removal : Text.Opens removal.first? (· = 'S') :=
  .of_eq_some fun cs (m, rest) h => by
    obtain ⟨⟨_, _⟩, rfl⟩ := first?_removal_eq_some_iff.mp h
    exact ⟨_, _, rfl, rfl⟩

end Seo

end MenuOutline
