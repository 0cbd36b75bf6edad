import MenuOutline.Proofs.Text.Pattern

-- Texts that are made of runs, with a separator between two of them. Main statement: the pattern of
-- such a text matches exactly the texts of which every part between separators is a run.

namespace MenuOutline.Text

variable {p p' q : Char → Bool} {cs front rest run : List Char} {c : Char}

-- One or more characters of a kind.
def IsRun (p : Char → Bool) (run : List Char) : Prop :=
  run ≠ [] ∧ run.all p

theorem IsRun.mono (h : IsRun p run) (hp : ∀ c ∈ run, p c → p' c) : IsRun p' run :=
  ⟨h.left, List.all_eq_true.mpr fun c hc => hp c hc <| List.all_eq_true.mp h.right c hc⟩

-- Every part between separators is a run.
def Separated (p q : Char → Bool) (cs : List Char) : Prop :=
  ∀ run ∈ cs.splitOnP q, IsRun p run

theorem flatten_splitOnP (cs : List Char) : (cs.splitOnP q).flatten = cs.filter (!q ·) := by
  induction cs
  case nil => rfl
  case cons c cs hi =>
    rw [List.splitOnP_cons_eq_if_modifyHead]
    split
    case isTrue hc  => simp [hc, hi]
    case isFalse hc =>
      cases hs : cs.splitOnP q
      case nil => exact absurd hs (List.splitOnP_ne_nil _ _)
      case cons => simp [hc, ← hi, hs]

theorem exists_mem_splitOnP_iff : (∃ run ∈ cs.splitOnP q, c ∈ run) ↔ c ∈ cs ∧ q c = false := by
  rw [← List.mem_flatten, flatten_splitOnP]
  simp

theorem Separated.mono (h : Separated p q cs) (hp : ∀ c ∈ cs, p c → p' c) : Separated p' q cs :=
  fun run hr => (h run hr).mono fun c hc => hp c (exists_mem_splitOnP_iff.mp ⟨run, hr, hc⟩).left

theorem Separated.of_mem (h : Separated p q cs) (hc : c ∈ cs) (hq : q c = false) : p c := by
  have ⟨run, hr, hc⟩ := exists_mem_splitOnP_iff.mpr ⟨hc, hq⟩
  exact List.all_eq_true.mp (h run hr).right c hc

theorem separated_iff_isRun (h : ∀ c ∈ cs, q c = false) : Separated p q cs ↔ IsRun p cs := by
  rw [Separated, List.splitOnP_eq_singleton h, List.forall_mem_singleton]

theorem IsRun.separated (hd : ∀ c, p c → q c = false) (h : IsRun p cs) : Separated p q cs :=
  (separated_iff_isRun fun c hc => hd c <| List.all_eq_true.mp h.right c hc).mpr h

theorem separated_append_cons (h : q c) :
    Separated p q (front ++ c :: rest) ↔ Separated p q front ∧ Separated p q rest := by
  rw [Separated, List.splitOnP_append_cons _ _ h, List.forall_mem_append]
  rfl

namespace Pattern

-- A run and further ones, each behind a separator.
def furtherRuns (p q : Char → Bool) : Pattern :=
  ((one q).seq (plus (one p))).star

theorem matches_furtherRuns_cons (hc : q c) (hr : IsRun p run)
    (h : (furtherRuns p q).Matches rest) : (furtherRuns p q).Matches (c :: run ++ rest) :=
  .starCons (.seq (.one hc) <| matches_plus_one_iff.mpr hr) h

-- Further runs are met as they are separated off,
theorem separated_of_matches (hd : ∀ c, p c → q c = false) (hr : IsRun p run)
    (h : (furtherRuns p q).Matches rest) : Separated p q (run ++ rest) := by
  generalize hs : furtherRuns p q = s at h
  induction h generalizing run <;> cases hs
  case starNil =>
    rw [List.append_nil]
    exact hr.separated hd
  case starCons cs rest hc _ _ hi =>
    have ⟨xs, ys, he, hx, hy⟩ := matches_seq_iff.mp hc
    have ⟨c, hq, hx⟩ := matches_one_iff.mp hx
    rw [he, hx, List.append_assoc, List.singleton_append, separated_append_cons hq]
    exact ⟨hr.separated hd, hi (matches_plus_one_iff.mp hy) rfl⟩

-- and what is behind the first part is matched by them, from the end back.
theorem exists_matches_of_splitOnP {runs : List (List Char)} (h : cs.splitOnP q = run :: runs)
    (hr : ∀ run ∈ runs, IsRun p run) :
    ∃ rest, cs = run ++ rest ∧ (furtherRuns p q).Matches rest := by
  induction cs generalizing run runs
  case nil =>
    cases h
    exact ⟨[], rfl, .starNil⟩
  case cons c cs hi =>
    cases hs : cs.splitOnP q
    case nil => exact absurd hs (List.splitOnP_ne_nil _ _)
    case cons first others =>
      rw [List.splitOnP_cons_eq_if_modifyHead, hs] at h
      split at h <;> cases h
      case isTrue hc =>
        have ⟨hf, ho⟩ := List.forall_mem_cons.mp hr
        have ⟨rest, he, hm⟩ := hi hs ho
        refine ⟨c :: cs, rfl, ?_⟩
        rw [he]
        exact matches_furtherRuns_cons hc hf hm
      case isFalse hc =>
        have ⟨rest, he, hm⟩ := hi hs hr
        exact ⟨rest, congrArg (c :: ·) he, hm⟩

theorem matches_separated_iff (hd : ∀ c, p c → q c = false) :
    ((plus (one p)).seq (furtherRuns p q)).Matches cs ↔ Separated p q cs := by
  constructor
  case mp =>
    intro h
    have ⟨run, rest, he, hr, hm⟩ := matches_seq_iff.mp h
    rw [he]
    exact separated_of_matches hd (matches_plus_one_iff.mp hr) hm
  case mpr =>
    intro h
    unfold Separated at h
    cases hs : cs.splitOnP q
    case nil => exact absurd hs (List.splitOnP_ne_nil _ _)
    case cons run runs =>
      rw [hs] at h
      have ⟨hr, hrs⟩ := List.forall_mem_cons.mp h
      have ⟨rest, he, hm⟩ := exists_matches_of_splitOnP hs hrs
      rw [he]
      exact .seq (matches_plus_one_iff.mpr hr) hm

end Pattern

end MenuOutline.Text
