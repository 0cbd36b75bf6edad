import MenuOutline.Proofs.Menu.Parses
import MenuOutline.Proofs.Section.Reading
import MenuOutline.Proofs.Section.Split

namespace MenuOutline

namespace Menu

variable {o : ParseOptions}

theorem buildTree_ne_emptyMenu {language : String} {maxDepth : Nat} {s : Section} :
    buildTree language maxDepth s ≠ .error .emptyMenu := by
  unfold buildTree
  cases PageTree.build language maxDepth s <;> nofun

-- A menu is empty exactly if it has no sections.
theorem ofSections_eq_emptyMenu_iff {sections : List Section} :
    ofSections o sections = .error .emptyMenu ↔ sections = [] := by
  match sections with
  | [] => exact iff_of_true rfl rfl
  | [_] =>
    refine iff_of_false ?_ nofun
    exact bind_ne_error buildTree_ne_emptyMenu fun _ => checkPairing_ne_error nofun
  | _ :: _ :: _ =>
    refine iff_of_false (bind_ne_error buildTree_ne_emptyMenu fun _ => ?_) nofun
    exact bind_ne_error buildTree_ne_emptyMenu fun _ => checkPairing_ne_error nofun

end Menu

namespace Section

variable {l a b : SourceLine} {ls rest : List SourceLine} {s : Section}
  {sections others : List Section}

-- The lines that stand in a section.
def hasText (l : SourceLine) : Bool :=
  !isDelimiter l.text && !Text.isBlankText l.text

theorem hasText_of_delimiter (hd : isDelimiter l.text) : hasText l = false := by
  simp [hasText, hd]

theorem hasText_of_blank (hb : Text.isBlankText l.text) : hasText l = false := by
  simp [hasText, hb]

theorem hasText_iff :
    hasText l ↔ isDelimiter l.text = false ∧ Text.isBlankText l.text = false := by
  simp [hasText]

theorem hasText_eq_false_iff :
    hasText l = false ↔ isDelimiter l.text ∨ Text.isBlankText l.text := by
  cases hd : isDelimiter l.text <;> simp [hasText, hd]

theorem consNonEmpty_append :
    consNonEmpty s (sections ++ others) = consNonEmpty s sections ++ others := by
  unfold consNonEmpty
  split <;> rfl

theorem flatten_consNonEmpty : (consNonEmpty s sections).flatten = s ++ sections.flatten := by
  unfold consNonEmpty
  split
  case isTrue hs  => simp [List.isEmpty_iff.mp hs]
  case isFalse hs => rfl

theorem mem_consNonEmpty_iff {t : Section} (ht : t ≠ []) :
    t ∈ consNonEmpty s sections ↔ t ∈ s :: sections := by
  unfold consNonEmpty
  split
  case isTrue hs  => simp [List.isEmpty_iff.mp hs, ht]
  case isFalse hs => rfl

theorem nil_notMem_consNonEmpty (h : [] ∉ sections) : [] ∉ consNonEmpty s sections := by
  unfold consNonEmpty
  split
  case isTrue hs  => exact h
  case isFalse hs => simp [h, Ne.symm <| mt List.isEmpty_iff.mpr hs]

-- The sections of numbered lines.
def ofLines (ls : List SourceLine) : List Section :=
  consNonEmpty (splitLines ls).1 (splitLines ls).2

-- From the last line back, by what splitting does with a line.
@[elab_as_elim]
theorem linesInduction {motive : List SourceLine → Prop} (nil : motive [])
    (delimiter : ∀ l ls, isDelimiter l.text → motive ls → motive (l :: ls))
    (blank : ∀ l ls, Text.isBlankText l.text → motive ls → motive (l :: ls))
    (text : ∀ l ls, isDelimiter l.text = false → Text.isBlankText l.text = false →
      motive ls → motive (l :: ls))
    (ls : List SourceLine) : motive ls := by
  induction ls
  case nil => exact nil
  case cons l ls hi =>
    cases hd : isDelimiter l.text
    case true => exact delimiter l ls hd hi
    case false =>
      cases hb : Text.isBlankText l.text
      case true  => exact blank l ls hb hi
      case false => exact text l ls hd hb hi

theorem flatten_splitLines (ls : List SourceLine) :
    (splitLines ls).1 ++ (splitLines ls).2.flatten = ls.filter hasText := by
  induction ls using linesInduction
  case nil => rfl
  case delimiter l ls hd hi =>
    rw [splitLines_of_delimiter hd, flatten_consNonEmpty, List.filter_cons, hasText_of_delimiter hd]
    exact hi
  case blank l ls hb hi =>
    rw [splitLines_of_blank hb, List.filter_cons, hasText_of_blank hb]
    exact hi
  case text l ls hd hb hi =>
    rw [splitLines_of_text hd hb, List.filter_cons_of_pos (hasText_iff.mpr ⟨hd, hb⟩), ← hi]
    rfl

theorem flatten_ofLines (ls : List SourceLine) : (ofLines ls).flatten = ls.filter hasText :=
  flatten_consNonEmpty.trans <| flatten_splitLines ls

theorem nil_notMem_splitLines (ls : List SourceLine) : [] ∉ (splitLines ls).2 := by
  induction ls using linesInduction
  case nil => exact List.not_mem_nil
  case delimiter hd hi =>
    rw [splitLines_of_delimiter hd]
    exact nil_notMem_consNonEmpty hi
  case blank hb hi   => rwa [splitLines_of_blank hb]
  case text hd hb hi => rwa [splitLines_of_text hd hb]

theorem mem_of_mem_ofLines (hs : s ∈ ofLines ls) (ha : a ∈ s) : a ∈ ls := by
  have h : a ∈ (ofLines ls).flatten := List.mem_flatten_of_mem hs ha
  rw [flatten_ofLines] at h
  exact (List.mem_filter.mp h).1

theorem ofLines_eq_nil_iff : ofLines ls = [] ↔ ∀ l ∈ ls, hasText l = false := by
  have hf : (∀ l ∈ ls, hasText l = false) ↔ (ofLines ls).flatten = [] := by
    simp [flatten_ofLines]
  rw [hf]
  refine ⟨fun h => h ▸ rfl, fun h => List.eq_nil_iff_forall_not_mem.mpr fun s hs => ?_⟩
  have hn : s = [] := List.flatten_eq_nil_iff.mp h s hs
  exact nil_notMem_consNonEmpty (nil_notMem_splitLines ls) (hn ▸ hs)

theorem splitLines_append_delimiter (hd : isDelimiter l.text) :
    splitLines (ls ++ l :: rest) = ((splitLines ls).1, (splitLines ls).2 ++ ofLines rest) := by
  induction ls using linesInduction
  case nil => exact splitLines_of_delimiter hd
  case delimiter k ls hk hi =>
    rw [List.cons_append, splitLines_of_delimiter hk, splitLines_of_delimiter hk, hi,
      consNonEmpty_append]
  case blank k ls hb hi =>
    rw [List.cons_append, splitLines_of_blank hb, splitLines_of_blank hb, hi]
  case text k ls hk hb hi =>
    rw [List.cons_append, splitLines_of_text hk hb, splitLines_of_text hk hb, hi]

theorem ofLines_append_delimiter (hd : isDelimiter l.text) :
    ofLines (ls ++ l :: rest) = ofLines ls ++ ofLines rest := by
  rw [ofLines, splitLines_append_delimiter hd]
  exact consNonEmpty_append

-- Lines without a delimiter among them stay together,
theorem splitLines_append_of_forall (h : ∀ l ∈ ls, isDelimiter l.text = false) :
    splitLines (ls ++ rest) = (ls.filter hasText ++ (splitLines rest).1, (splitLines rest).2) := by
  induction ls using linesInduction
  case nil => rfl
  case delimiter l ls hd hi =>
    simp [h l (.head _)] at hd
  case blank l ls hb hi =>
    rw [List.cons_append, splitLines_of_blank hb, hi (List.forall_mem_cons.mp h).2,
      List.filter_cons, hasText_of_blank hb]
    rfl
  case text l ls hd hb hi =>
    rw [List.cons_append, splitLines_of_text hd hb, hi (List.forall_mem_cons.mp h).2,
      List.filter_cons_of_pos (hasText_iff.mpr ⟨hd, hb⟩)]
    rfl

-- whatever stands before them.
theorem exists_section_append (before : List SourceLine) {first : Section}
    (hs : splitLines rest = (first, others)) (hn : first ≠ []) :
    ∃ s ∈ ofLines (before ++ rest), first ⊆ s := by
  have ne_nil {s : Section} (h : first ⊆ s) : s ≠ [] :=
    fun he => hn <| List.subset_nil.mp (he ▸ h)
  suffices h : ∃ s ∈ (splitLines (before ++ rest)).1 :: (splitLines (before ++ rest)).2,
      first ⊆ s by
    have ⟨s, hm, hf⟩ := h
    exact ⟨s, (mem_consNonEmpty_iff <| ne_nil hf).mpr hm, hf⟩
  induction before using linesInduction
  case nil => exact ⟨first, hs ▸ .head _, List.Subset.refl _⟩
  case delimiter l before hd hi =>
    have ⟨s, hm, hf⟩ := hi
    rw [List.cons_append, splitLines_of_delimiter hd]
    exact ⟨s, .tail _ <| (mem_consNonEmpty_iff <| ne_nil hf).mpr hm, hf⟩
  case blank l before hb hi =>
    rwa [List.cons_append, splitLines_of_blank hb]
  case text l before hd hb hi =>
    have ⟨s, hm, hf⟩ := hi
    rw [List.cons_append, splitLines_of_text hd hb]
    cases hm
    case head    => exact ⟨_, .head _, List.subset_cons_of_subset _ hf⟩
    case tail hm => exact ⟨s, .tail _ hm, hf⟩

-- Whether the numbers of lines are ascending.
def Ascending (ls : List SourceLine) : Prop :=
  ls.Pairwise (·.number < ·.number)

theorem ascending_numberFrom (n : Nat) (css : List (List Char)) :
    Ascending (numberFrom n css) ∧ ∀ l ∈ numberFrom n css, n ≤ l.number := by
  induction css generalizing n
  case nil => exact ⟨.nil, nofun⟩
  case cons cs css hi =>
    have ⟨ha, hn⟩ := hi (n + 1)
    refine ⟨.cons hn ha, List.forall_mem_cons.mpr ⟨Nat.le_refl n, fun l hl => ?_⟩⟩
    exact Nat.le_of_succ_le <| hn l hl

-- No two lines of the sections have one number.
theorem ascending_split (content : String) : Ascending (split content).flatten := by
  have h : (split content).flatten = (numberFrom 1 (Text.lines content.toList)).filter hasText :=
    flatten_ofLines _
  rw [h]
  exact (ascending_numberFrom _ _).left.filter _

-- Two lines with a delimiter between them stand in different sections,
theorem isDelimiter_eq_false_of_mem (h : Ascending ls) (hs : s ∈ ofLines ls) (ha : a ∈ s)
    (hb : b ∈ s) (hl : l ∈ ls) (hal : a.number < l.number) (hlb : l.number < b.number) :
    isDelimiter l.text = false := by
  by_contra hd
  obtain ⟨before, after, rfl⟩ := List.append_of_mem hl
  have ⟨_, hy, hx⟩ := List.pairwise_append.mp h
  rw [ofLines_append_delimiter (Bool.eq_true_of_not_eq_false hd)] at hs
  cases List.mem_append.mp hs
  case inl hs =>
    have := hx b (mem_of_mem_ofLines hs hb) l (.head _)
    exact Nat.lt_asymm this hlb
  case inr hs =>
    have := (List.pairwise_cons.mp hy).1 a (mem_of_mem_ofLines hs ha)
    exact Nat.lt_asymm this hal

-- and two lines with none in one.
theorem exists_section_of_forall (h : Ascending ls) (ha : a ∈ ls.filter hasText)
    (hb : b ∈ ls.filter hasText) (hab : a.number < b.number)
    (hn : ∀ l ∈ ls, a.number < l.number → l.number < b.number → isDelimiter l.text = false) :
    ∃ s ∈ ofLines ls, a ∈ s ∧ b ∈ s := by
  have ⟨ha, hat⟩ := List.mem_filter.mp ha
  have ⟨hb, hbt⟩ := List.mem_filter.mp hb
  -- The lines before `a`, those from `a` on, and in these the lines up to `b`.
  obtain ⟨before, rest, rfl⟩ := List.append_of_mem ha
  have ⟨_, hr, hp⟩ := List.pairwise_append.mp h
  have hbr : b ∈ rest := by
    cases List.mem_append.mp hb
    case inl hb => exact absurd hab <| Nat.lt_asymm <| hp b hb a (.head _)
    case inr hb => exact (List.mem_cons.mp hb).resolve_left fun hb => Nat.lt_irrefl _ (hb ▸ hab)
  obtain ⟨between, after, rfl⟩ := List.append_of_mem hbr
  have ⟨hal, hr⟩ := List.pairwise_cons.mp hr
  have ⟨_, _, hlb⟩ := List.pairwise_append.mp hr
  have hrun : ∀ l ∈ a :: between, isDelimiter l.text = false := by
    refine List.forall_mem_cons.mpr ⟨(hasText_iff.mp hat).1, fun l hl => ?_⟩
    exact hn l (by simp [hl]) (hal l (by simp [hl])) (hlb l hl b (.head _))
  have ⟨hbd, hbb⟩ := hasText_iff.mp hbt
  have hs : splitLines (a :: between ++ b :: after) =
      ((a :: between).filter hasText ++ b :: (splitLines after).1, (splitLines after).2) := by
    rw [splitLines_append_of_forall hrun, splitLines_of_text hbd hbb]
  have ⟨s, hm, hs⟩ := exists_section_append before hs <| List.append_ne_nil_of_right_ne_nil _ nofun
  refine ⟨s, hm, hs <| List.mem_append_left _ ?_, hs <| List.mem_append_right _ <| .head _⟩
  exact List.mem_filter.mpr ⟨.head _, hat⟩

theorem numberFrom_eq (n : Nat) (css : List (List Char)) :
    numberFrom n css = (css.zipIdx n).map fun (text, number) => { number, text } := by
  induction css generalizing n
  case nil => rfl
  case cons cs css hi => rw [numberFrom, hi, List.zipIdx_cons, List.map_cons]

-- The sections take up the lines that are neither blank nor delimiters, each with its number in the
-- file, and none of them is empty. Two of these lines stand in one section exactly if the file has
-- no delimiter between them.
theorem split_partitions_lines (content : String) :
    let lines := ((Text.lines content.toList).zipIdx 1).map fun (text, number) =>
      ({ number, text } : SourceLine)
    let texts := lines.filter fun l => !isDelimiter l.text && !Text.isBlankText l.text
    (split content = [] ↔ ∀ l ∈ lines, isDelimiter l.text ∨ Text.isBlankText l.text) ∧
    (∀ o, Menu.parse o content = .error .emptyMenu ↔ split content = []) ∧
    (∀ s ∈ split content, s ≠ []) ∧ (split content).flatten = texts ∧
    ∀ a ∈ texts, ∀ b ∈ texts, a.number < b.number →
      ((∃ s ∈ split content, a ∈ s ∧ b ∈ s) ↔
        ∀ l ∈ lines, a.number < l.number → l.number < b.number → ¬isDelimiter l.text) := by
  intro lines texts
  have hl : lines = numberFrom 1 (Text.lines content.toList) := (numberFrom_eq ..).symm
  have hs : split content = ofLines lines := hl ▸ rfl
  have ha : Ascending lines := hl ▸ (ascending_numberFrom ..).1
  rw [hs]
  refine ⟨?nil, fun o => ?error, ?nonEmpty, flatten_ofLines _, fun a hat b hbt hab => ⟨?mp, ?mpr⟩⟩
  case nil =>
    simp only [ofLines_eq_nil_iff, hasText_eq_false_iff]
  case error =>
    rw [← hs]
    exact Menu.ofSections_eq_emptyMenu_iff
  case nonEmpty =>
    exact fun s h hn => nil_notMem_consNonEmpty (nil_notMem_splitLines lines) (hn ▸ h)
  case mp =>
    intro ⟨s, h, has, hbs⟩ l hll hal hlb
    simp [isDelimiter_eq_false_of_mem ha h has hbs hll hal hlb]
  case mpr =>
    intro hn
    simp only [Bool.not_eq_true] at hn
    exact exists_section_of_forall ha hat hbt hab hn

-- Two lines with a blank one between them, and two with two delimiters between them.
theorem split_partitions_lines_repeated :
    let content := "----------\nInicio\n\nBlog\n----------\n----------\nInici\n"
    let inicio : SourceLine := { number := 2, text := "Inicio".toList }
    let blog : SourceLine := { number := 4, text := "Blog".toList }
    let inici : SourceLine := { number := 7, text := "Inici".toList }
    (split content).flatten = [inicio, blog, inici] ∧
      (∃ s ∈ split content, inicio ∈ s ∧ blog ∈ s) ∧
      ¬∃ s ∈ split content, blog ∈ s ∧ inici ∈ s := by
  have ⟨_, _, _, hf, h⟩ := split_partitions_lines
    "----------\nInicio\n\nBlog\n----------\n----------\nInici\n"
  refine ⟨hf.trans (by decide +kernel), (h _ ?_ _ ?_ ?_).mpr ?_, mt (h _ ?_ _ ?_ ?_).mp ?_⟩ <;>
    decide +kernel

end Section

end MenuOutline
