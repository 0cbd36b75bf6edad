import MenuOutline.Proofs.Project.Details
import MenuOutline.Proofs.Text.Separated
import Mathlib

-- The domains that pass. Main statement: they are the host names, where case folding counts the
-- long s and the Kelvin sign as letters.

namespace MenuOutline

namespace Project

open Text

variable {p : Project} {letter letter' : Char → Bool} {s : String} {cs : List Char} {c : Char}

def isHostSeparator (c : Char) : Bool :=
  c == '-' || c == '.'

-- Runs of letters and digits, with single separators between them, that end in a point and at
-- least two letters.
structure IsHostName (letter : Char → Bool) (cs : List Char) : Prop where
  runs   : Separated (fun c => letter c || c.isDigit) isHostSeparator cs
  ending : ∃ front last, cs = front ++ '.' :: last ∧
    '.' ∉ last ∧ 2 ≤ last.length ∧ ∀ c ∈ last, letter c

theorem IsHostName.mono (h : IsHostName letter cs) (hl : ∀ c ∈ cs, letter c → letter' c) :
    IsHostName letter' cs := by
  have ⟨hr, front, last, he, hp, hn, ha⟩ := h
  refine ⟨hr.mono fun c hc h => ?_, front, last, he, hp, hn, fun c hc => hl c ?_ (ha c hc)⟩
  · cases Bool.or_eq_true_iff.mp h
    case inl h => simp [hl c hc h]
    case inr h => simp [h]
  · simp [he, hc]

-- The letters of ASCII, and the two characters that fold to one of them.
def isFoldedLetter (c : Char) : Bool :=
  c.isAlpha || c == 'ſ' || c == '\u212A'

theorem foldCase_cases (c : Char) :
    c = 'ſ' ∨ c = '\u212A' ∨ (c ≠ 'ſ' ∧ c ≠ '\u212A' ∧ foldCase c = c.toLower) := by
  unfold foldCase
  split
  case isTrue hs  => exact .inl hs
  case isFalse hs =>
    split
    case isTrue hk  => exact .inr <| .inl hk
    case isFalse hk => exact .inr <| .inr ⟨hs, hk, rfl⟩

theorem isLower_foldCase (c : Char) : (foldCase c).isLower = isFoldedLetter c := by
  obtain h | h | ⟨hs, hk, hf⟩ := foldCase_cases c
  · subst h; rfl
  · subst h; rfl
  · simp [hf, isFoldedLetter, beq_false_of_ne hs, beq_false_of_ne hk]

theorem isAlphanum_foldCase (c : Char) :
    (foldCase c).isAlphanum = (isFoldedLetter c || c.isDigit) := by
  obtain h | h | ⟨hs, hk, hf⟩ := foldCase_cases c
  · subst h; rfl
  · subst h; rfl
  · by_cases hu : c.isUpper
    case pos => simp [hf, isFoldedLetter, Char.isAlphanum, Char.isAlpha, hu]
    case neg =>
      rw [hf, Char.toLower_eq_of_not_isUpper hu]
      simp [isFoldedLetter, Char.isAlphanum, beq_false_of_ne hs, beq_false_of_ne hk]

theorem not_isHostSeparator (h : isFoldedLetter c || c.isDigit) : isHostSeparator c = false := by
  refine Bool.eq_false_iff.mpr fun hs => ?_
  cases Bool.or_eq_true_iff.mp hs
  case inl hs => rw [eq_of_beq hs] at h; contradiction
  case inr hs => rw [eq_of_beq hs] at h; contradiction

theorem matches_domainLetters :
    (domainLetter.seq domainLetter.plus).Matches cs ↔
      2 ≤ cs.length ∧ ∀ c ∈ cs, isFoldedLetter c := by
  simp only [domainLetter, Pattern.matches_seq_iff, Pattern.matches_plus_one_iff,
    Pattern.matches_one_iff, isLower_foldCase, List.all_eq_true]
  constructor
  case mp =>
    intro ⟨first, rest, he, ⟨c, hc, hf⟩, hn, hr⟩
    subst he hf
    have hl := List.length_pos_iff.mpr hn
    simp
    exact ⟨hl, hc, hr⟩
  case mpr =>
    intro ⟨hl, ha⟩
    match cs with
    | c :: d :: cs =>
      have ⟨hc, hr⟩ := List.forall_mem_cons.mp ha
      exact ⟨[c], d :: cs, rfl, ⟨c, hc, rfl⟩, by simp, hr⟩

theorem matches_domainRuns :
    (domainChar.plus.seq (domainSeparator.seq domainChar.plus).star).Matches cs ↔
      Separated (fun c => isFoldedLetter c || c.isDigit) isHostSeparator cs := by
  have h : domainChar = .one fun c => isFoldedLetter c || c.isDigit := by
    simp only [domainChar, isAlphanum_foldCase]
  rw [h]
  exact Pattern.matches_separated_iff fun c => not_isHostSeparator

-- The runs may take any point but the last: what is behind it has letters only.
theorem matches_domainPattern_iff : domainPattern.Matches cs ↔ IsHostName isFoldedLetter cs := by
  -- The runs are one part of the text, the point and the letters behind it two others.
  simp only [domainPattern, ← Pattern.matches_seq_assoc (b := (domainSeparator.seq _).star)]
  simp only [Pattern.matches_seq_iff (b := (Pattern.char '.').seq _), matches_domainRuns]
  simp only [Pattern.matches_seq_iff (a := Pattern.char '.'), matches_domainLetters,
    Pattern.matches_char_iff]
  constructor
  case mp =>
    intro ⟨front, _, he, hf, _, last, hd, rfl, hl, ha⟩
    subst he hd
    have hp : '.' ∉ last := fun h => absurd (ha _ h) (by decide)
    have hr : IsRun (fun c => isFoldedLetter c || c.isDigit) last :=
      ⟨List.ne_nil_of_length_pos (by omega), List.all_eq_true.mpr fun c hc => by simp [ha c hc]⟩
    have hs := hr.separated fun c => not_isHostSeparator
    exact ⟨(separated_append_cons rfl).mpr ⟨hf, hs⟩, front, last, rfl, hp, hl, ha⟩
  case mpr =>
    intro ⟨hr, front, last, he, _, hl, ha⟩
    rw [he, separated_append_cons rfl] at hr
    exact ⟨front, _, he, hr.left, _, last, rfl, rfl, hl, ha⟩

theorem isHostName_isAlpha_iff : IsHostName Char.isAlpha cs ↔
    IsHostName isFoldedLetter cs ∧ 'ſ' ∉ cs ∧ '\u212A' ∉ cs := by
  constructor
  case mp =>
    intro h
    refine ⟨h.mono fun c _ hc => by simp [isFoldedLetter, hc], fun hc => ?_, fun hc => ?_⟩
    · exact absurd (h.runs.of_mem hc rfl) (by decide)
    · exact absurd (h.runs.of_mem hc rfl) (by decide)
  case mpr =>
    intro ⟨h, hs, hk⟩
    refine h.mono fun c hc hl => ?_
    have hs : c ≠ 'ſ' := fun he => hs (he ▸ hc)
    have hk : c ≠ '\u212A' := fun he => hk (he ▸ hc)
    simpa [isFoldedLetter, beq_false_of_ne hs, beq_false_of_ne hk] using hl

theorem domain_not_reported_iff (h : p.domain = some s) :
    (∀ f ∈ p.faults, f.field ≠ "domain") ↔ IsHostName isFoldedLetter s.toList := by
  have hr : Detail.domain.Refused p ↔ ¬domainPattern.Matches s.toList := by
    simp [Detail.Refused, Detail.given, h, Detail.HasForm]
  have hf : (∀ f ∈ p.faults, f.field ≠ "domain") ↔ Detail.domain.faults p = [] := by
    rw [← filter_faults, List.filter_eq_nil_iff]
    exact forall₂_congr fun f _ => not_congr decide_eq_true_iff.symm
  rw [hf, Detail.faults_eq_nil_iff, hr, not_not, matches_domainPattern_iff]

-- Every host name passes. What passes is one too, if neither of the two characters is in it.
theorem check_domain (h : p.domain = some s) :
    ((∀ f ∈ p.faults, f.field ≠ "domain") ↔ IsHostName isFoldedLetter s.toList) ∧
    (IsHostName Char.isAlpha s.toList → ∀ f ∈ p.faults, f.field ≠ "domain") ∧
    (p.check = .ok () →
      (IsHostName Char.isAlpha s.toList ↔ 'ſ' ∉ s.toList ∧ '\u212A' ∉ s.toList)) := by
  have hd := domain_not_reported_iff h
  refine ⟨hd, fun hn => ?_, fun hc => ?_⟩
  · exact hd.mpr (isHostName_isAlpha_iff.mp hn).left
  · have hn := hd.mp fun f hf => absurd hf <| by simp [check_eq_ok_iff.mp hc]
    rw [isHostName_isAlpha_iff, and_iff_right hn]

-- A host name with an ordinary s, and a text with a long one, which passes as well.
theorem check_domain_shop :
    (∃ p : Project, p.domain = some "my-shop.ES" ∧ p.check = .ok () ∧
      IsHostName Char.isAlpha "my-shop.ES".toList) ∧
    (∃ p : Project, p.domain = some "ſhop.com" ∧ p.check = .ok () ∧
      ¬IsHostName Char.isAlpha "ſhop.com".toList) := by
  have hs : ({ none with domain := "my-shop.ES" } : Project).check = .ok () :=
    check_eq_ok_iff.mpr (by decide +kernel)
  have hl : ({ none with domain := "ſhop.com" } : Project).check = .ok () :=
    check_eq_ok_iff.mpr (by decide +kernel)
  refine ⟨⟨_, rfl, hs, ?_⟩, ⟨_, rfl, hl, fun h => ?_⟩⟩
  · exact ((check_domain rfl).right.right hs).mpr (by decide)
  · exact absurd (((check_domain rfl).right.right hl).mp h) (by decide)

end Project

end MenuOutline
