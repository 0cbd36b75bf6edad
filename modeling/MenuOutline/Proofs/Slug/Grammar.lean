import MenuOutline.Proofs.Slug.Valid
import MenuOutline.Proofs.Text.Separated

-- The language of slugs. Main statement: what passes the check is a part, perhaps with a hyphen and
-- another slug behind it.

namespace MenuOutline.Slug

open Text

variable {part : List Char} {c : Char}

inductive IsSlug : List Char → Prop
  | part {part : List Char} : IsPart part → IsSlug part
  | hyphen {part rest : List Char} : IsPart part → IsSlug rest → IsSlug (part ++ '-' :: rest)

-- The same language as a pattern: ^[a-z0-9]+(-[a-z0-9]+)*$
def pattern : Pattern :=
  (Pattern.plus (.one isSlugChar)).seq (Pattern.furtherRuns isSlugChar (· == '-'))

theorem isPart_iff_isRun : IsPart part ↔ IsRun isSlugChar part :=
  ⟨fun ⟨hn, hc⟩ => ⟨hn, hc⟩, fun ⟨hn, hc⟩ => ⟨hn, hc⟩⟩

theorem beq_hyphen_of_isSlugChar (c : Char) (h : isSlugChar c) : (c == '-') = false :=
  beq_false_of_ne <| ne_hyphen_of_isSlugChar h

theorem isPart_singleton (h : isSlugChar c) : IsPart [c] where
  ne_nil := List.cons_ne_nil c []
  chars  := by rw [List.all_cons, h]; rfl

theorem IsPart.append (hp : IsPart part) {cs : List Char} (h : cs.all isSlugChar) :
    IsPart (part ++ cs) where
  ne_nil := by simp [hp.ne_nil]
  chars  := by rw [List.all_append, hp.chars, h]; rfl

-- The text that is checked starts a slug, or goes on with one whose first part has been begun.
theorem isSlug_of_partsValid (cs : List Char) : (partsValid false cs → IsSlug cs) ∧
    ∀ part, IsPart part → partsValid true cs → IsSlug (part ++ cs) := by
  induction cs
  case nil => exact ⟨nofun, fun part hp _ => part.append_nil.symm ▸ .part hp⟩
  case cons c cs hi =>
    have ⟨hf, ht⟩ := hi
    by_cases hc : c = '-'
    case pos =>
      subst hc
      exact ⟨nofun, fun part hp h => .hyphen hp (hf h)⟩
    case neg =>
      simp only [partsValid, if_neg hc, Bool.and_eq_true]
      refine ⟨fun h => ht [c] (isPart_singleton h.left) h.right, fun part hp h => ?_⟩
      rw [List.append_cons]
      exact ht _ (hp.append (isPart_singleton h.left).chars) h.right

theorem partsValid_iff_isSlug {cs : List Char} : partsValid false cs ↔ IsSlug cs := by
  refine ⟨(isSlug_of_partsValid cs).left, fun h => ?_⟩
  induction h
  case part part hp =>
    rw [← part.append_nil, hp.partsValid_append]
    rfl
  case hyphen hp _ hi =>
    rw [hp.partsValid_append]
    exact hi

theorem IsSlug.separated {cs : List Char} (h : IsSlug cs) :
    Separated isSlugChar (· == '-') cs := by
  induction h
  case part hp => exact (isPart_iff_isRun.mp hp).separated beq_hyphen_of_isSlugChar
  case hyphen hp _ hi =>
    have hr := (isPart_iff_isRun.mp hp).separated beq_hyphen_of_isSlugChar
    exact (separated_append_cons (by decide)).mpr ⟨hr, hi⟩

theorem isPart_of_separated (hn : '-' ∉ part) (h : Separated isSlugChar (· == '-') part) :
    IsPart part := by
  refine isPart_iff_isRun.mpr <| (separated_iff_isRun fun c hc => ?_).mp h
  exact beq_false_of_ne <| ne_of_mem_of_not_mem hc hn

-- The first hyphen ends the first part.
theorem isSlug_of_separated {cs : List Char} (h : Separated isSlugChar (· == '-') cs) :
    IsSlug cs := by
  by_cases hc : '-' ∈ cs
  case pos =>
    obtain ⟨part, rest, rfl, hn⟩ := List.eq_append_cons_of_mem hc
    have ⟨hp, hr⟩ := (separated_append_cons (by decide)).mp h
    exact .hyphen (isPart_of_separated hn hp) (isSlug_of_separated hr)
  case neg => exact .part (isPart_of_separated hc h)
termination_by cs.length

theorem separated_iff_isSlug {cs : List Char} :
    Separated isSlugChar (· == '-') cs ↔ IsSlug cs :=
  ⟨isSlug_of_separated, IsSlug.separated⟩

-- A text passes the check exactly if it is a slug: all its parts between hyphens are runs of small
-- letters and digits, and the pattern matches it.
theorem isValid_iff_isSlug (s : String) : (isValid s ↔ IsSlug s.toList) ∧
    (isValid s ↔ ∀ part ∈ s.toList.splitOnP (· == '-'), IsPart part) ∧
    (isValid s ↔ pattern.Matches s.toList) := by
  have hs : isValid s ↔ IsSlug s.toList := partsValid_iff_isSlug
  refine ⟨hs, ?_, ?_⟩
  · simp only [hs, ← separated_iff_isSlug, isPart_iff_isRun]
    rfl
  · rw [hs, ← separated_iff_isSlug, pattern,
      Pattern.matches_separated_iff beq_hyphen_of_isSlugChar]

end MenuOutline.Slug
