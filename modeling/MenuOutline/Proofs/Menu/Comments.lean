import MenuOutline.Proofs.Menu.Items
import MenuOutline.Proofs.Menu.Parses
import MenuOutline.Proofs.Section.Reading

namespace MenuOutline

namespace Reading

variable {xs ys : List (Reading × Nat)} {f : Nat → Nat} {k : Nat} {rs ts : List Reading}

theorem splitOnP_map {α β : Type} (g : α → β) (q : β → Bool) (as : List α) :
    (as.map g).splitOnP q = (as.splitOnP (q ∘ g)).map (List.map g) := by
  induction as
  case nil => simp
  case cons a as hi =>
    rw [List.map_cons, List.splitOnP_cons_eq_if_modifyHead, List.splitOnP_cons_eq_if_modifyHead, hi]
    cases h : (as.splitOnP (q ∘ g))
    case nil         => exact absurd h (List.splitOnP_ne_nil _ _)
    case cons bs bss => cases hq : q (g a) <;> simp [hq]

theorem item?_renumber (x : Reading × Nat) :
    item? (x.map id f) = (item? x).map (.renumber f) := by
  obtain ⟨r, n⟩ := x
  cases r <;> rfl

theorem sections_renumber (f : Nat → Nat) (ns : List (Reading × Nat)) :
    sections (ns.map (Prod.map id f)) = (sections ns).map (·.map (.renumber f)) := by
  have hi : item? ∘ Prod.map id f = fun x => (item? x).map (.renumber f) := funext item?_renumber
  have hb : (·.any (·.1 != blank)) ∘ List.map (Prod.map id f) =
      fun ns : List (Reading × Nat) => ns.any (·.1 != blank) := by
    funext ns
    rw [Function.comp, List.any_map]
    rfl
  rw [sections, splitOnP_map, sections, itemLists, itemLists, List.filter_map, hb, List.map_map,
    List.map_map]
  refine List.map_congr_left fun ns _ => ?_
  rw [Function.comp, Function.comp, List.filterMap_map, hi, List.map_filterMap]

-- The lines between the delimiters around the place behind the first `k` lines.
def around (k : Nat) (rs : List Reading) : List Reading :=
  (rs.take k).rtakeWhile (· != delimiter) ++ (rs.drop k).takeWhile (· != delimiter)

-- The number of a line after another one has been put behind the first `k` lines.
def shift (k n : Nat) : Nat :=
  if n ≤ k then n else n + 1

theorem zipIdx_shift (hk : rs.length = k) :
    ((rs ++ ts).zipIdx 1).map (Prod.map id (shift k)) = rs.zipIdx 1 ++ ts.zipIdx (k + 2) := by
  have hr : (rs.zipIdx 1).map (Prod.map id (shift k)) = (rs.zipIdx 1).map id := by
    refine List.map_congr_left fun (r, n) hx => ?_
    have hn : n ≤ k := by
      have := List.snd_lt_add_of_mem_zipIdx hx
      omega
    simp [shift, hn]
  have ht : (ts.zipIdx (k + 1)).map (Prod.map id (shift k)) = ts.zipIdx (k + 1 + 1) := by
    rw [List.zipIdx_succ (i := k + 1)]
    refine List.map_congr_left fun (r, n) hx => ?_
    have hn : ¬n ≤ k := Nat.not_le_of_lt (List.le_snd_of_mem_zipIdx hx)
    simp [shift, hn]
  rw [List.zipIdx_append, List.map_append, hr, hk, Nat.add_comm 1 k, ht, List.map_id]

theorem map_fst_around : (xs.rtakeWhile (·.1 != delimiter) ++ ys.takeWhile (·.1 != delimiter)).map
    Prod.fst = around xs.length ((xs ++ ys).map Prod.fst) := by
  have hl : (xs.map Prod.fst).length = xs.length := List.length_map _
  simp only [around, List.rtakeWhile, List.map_append, List.take_left' hl, List.drop_left' hl,
    List.takeWhile_map, ← List.map_reverse]
  rfl

-- A comment has no item of its own, but keeps its section from being left out.
theorem exists_sections_comment (xs ys : List (Reading × Nat)) (n : Nat) : ∃ init rest items,
    sections (xs ++ (comment, n) :: ys) = init ++ items :: rest ∧
      ((∃ r ∈ around xs.length ((xs ++ ys).map Prod.fst), r ≠ blank) →
        sections (xs ++ ys) = init ++ items :: rest) ∧
      ((∀ r ∈ around xs.length ((xs ++ ys).map Prod.fst), r = blank) →
        items = [] ∧ sections (xs ++ ys) = init ++ rest) := by
  have ⟨init, hi⟩ := exists_sections_append_left xs
  have ⟨rest, hr⟩ := exists_sections_append_right ys
  -- All that is known of the lines is what stands next to the place, up to the delimiters.
  let near := xs.rtakeWhile (·.1 != delimiter)
  let far := ys.takeWhile (·.1 != delimiter)
  have hn : ∀ x ∈ near, x.1 ≠ delimiter := fun _ hx => by simpa using List.mem_rtakeWhile_imp hx
  have hf : ∀ x ∈ far, x.1 ≠ delimiter := fun _ hx => by simpa using List.mem_takeWhile_imp hx
  have hd : ∀ x ∈ near ++ far, x.1 ≠ delimiter := List.forall_mem_append.mpr ⟨hn, hf⟩
  have hd' : ∀ x ∈ near ++ (comment, n) :: far, x.1 ≠ delimiter :=
    List.forall_mem_append.mpr ⟨hn, List.forall_mem_cons.mpr ⟨nofun, hf⟩⟩
  have hs : sections (xs ++ ys) = init ++ sections (near ++ far) ++ rest := by
    rw [hi, hr, List.append_assoc]
  have hs' : sections (xs ++ (comment, n) :: ys) =
      init ++ sections (near ++ (comment, n) :: far) ++ rest := by
    rw [hi, List.append_cons, hr, ← List.append_cons, List.append_assoc]
  have hc : sections (near ++ (comment, n) :: far) = [(near ++ far).filterMap item?] := by
    rw [sections_of_text hd' ⟨_, List.mem_append_right _ (.head _), nofun⟩, List.filterMap_append,
      List.filterMap_append, List.filterMap_cons_none rfl]
  rw [← map_fst_around, hs', hc, hs, List.append_assoc, List.append_assoc]
  refine ⟨init, rest, (near ++ far).filterMap item?, rfl, fun ⟨r, hm, hb⟩ => ?_, fun h => ?_⟩
  · have ⟨x, hx, hr⟩ := List.mem_map.mp hm
    rw [sections_of_text hd ⟨x, hx, hr ▸ hb⟩]
    rfl
  · have hb : ∀ x ∈ near ++ far, x.1 = blank := fun x hx => h x.1 (List.mem_map_of_mem hx)
    rw [sections_of_blank hb]
    exact ⟨filterMap_eq_nil_of_blank hb, rfl⟩

end Reading

-- A menu with a comment put between its lines, behind the first `k` of them.
structure CommentInserted (comment : List Char) (k : Nat) (content content' : String) : Prop where
  inserted : Text.LineInserted comment k content.toList content'.toList
  newline  : '\n' ∉ comment
  sign     : (Text.trim comment).head? = some '#'

variable {content content' : String} {comment : List Char} {k : Nat}

theorem CommentInserted.exists_readings (h : CommentInserted comment k content content') :
    ∃ rs ts, Section.readings content = rs ++ ts ∧ rs.length = k ∧
      Section.readings content' = rs ++ .comment :: ts := by
  have he : comment ≠ [] := by
    rintro rfl
    exact absurd h.sign (by decide)
  rw [← Reading.ofLine_eq_comment h.sign]
  exact h.inserted.exists_map_lines (fun _ _ => Reading.ofLine_append) h.newline he

-- Where a comment is put into a menu, there is a section afterwards. It is a new one only if all
-- was blank there.
theorem CommentInserted.exists_sections (h : CommentInserted comment k content content') :
    ∃ init rest items, (Section.split content').map Section.items = init ++ items :: rest ∧
      ((∃ r ∈ Reading.around k (Section.readings content), r ≠ .blank) →
        (Section.split content).map (·.items.map (.renumber (Reading.shift k))) =
          init ++ items :: rest) ∧
      ((∀ r ∈ Reading.around k (Section.readings content), r = .blank) → items = [] ∧
        (Section.split content).map (·.items.map (.renumber (Reading.shift k))) =
          init ++ rest) := by
  have ⟨rs, ts, hr, hk, hr'⟩ := h.exists_readings
  have hs : (Section.split content).map (·.items.map (.renumber (Reading.shift k))) =
      Reading.sections (rs.zipIdx 1 ++ ts.zipIdx (k + 2)) := by
    rw [← Reading.zipIdx_shift hk, Reading.sections_renumber, ← hr, ← Section.map_items_split,
      List.map_map]
    rfl
  have hs' : (Section.split content').map Section.items =
      Reading.sections (rs.zipIdx 1 ++ (.comment, k + 1) :: ts.zipIdx (k + 2)) := by
    rw [Section.map_items_split, hr', List.zipIdx_append, List.zipIdx_cons, hk, Nat.add_comm 1 k]
  have hm : (rs.zipIdx 1 ++ ts.zipIdx (k + 2)).map Prod.fst = Section.readings content := by
    rw [List.map_append, List.zipIdx_map_fst, List.zipIdx_map_fst, hr]
  have hl : (rs.zipIdx 1).length = k := by rw [List.length_zipIdx, hk]
  rw [hs, hs', ← hm, ← hl]
  exact Reading.exists_sections_comment _ _ _

namespace Menu

variable {o : ParseOptions} {sections : List Section} {m : Menu}

def sectionCount (m : Menu) : Nat :=
  (if m.hasSecondary then 2 else 1) + m.ignoredSections

theorem Parses.sectionCount_eq (h : Parses o sections m) : m.sectionCount = sections.length := by
  cases h
  case one => rfl
  case two => exact Nat.add_comm 2 _

-- A comment is passed over exactly where there is a section for it to stand in. Between delimiters
-- with nothing but blank lines it makes a section that has no pages, and the sections after it are
-- no longer what they were.
theorem parse_of_commentInserted (o : ParseOptions)
    (h : CommentInserted comment k content content') :
    let around := Reading.around k (Section.readings content)
    ((∃ r ∈ around, r ≠ .blank) →
      parse o content' = renumberOutcome (Reading.shift k) (parse o content)) ∧
    ((∀ r ∈ around, r = .blank) →
      (∃ init rest, (Section.split content').map Section.items = init ++ [] :: rest ∧
        (Section.split content).map (·.items.map (.renumber (Reading.shift k))) = init ++ rest) ∧
      ∀ m, parse o content = .ok m → parse o content' ≠ .ok (m.renumber (Reading.shift k))) := by
  have ⟨init, rest, items, hs', ht, hb⟩ := h.exists_sections
  refine ⟨fun ha => ofSections_renumber (hs'.trans (ht ha).symm), fun ha => ?_⟩
  have ⟨hi, hs⟩ := hb ha
  subst hi
  refine ⟨⟨init, rest, hs', hs⟩, fun m hm hm' => ?_⟩
  -- Every menu tells how many sections it was read from, and there is one more of them.
  have hl  : (Section.split content).length = init.length + rest.length := by
    simpa using congrArg List.length hs
  have hl' : (Section.split content').length = init.length + (rest.length + 1) := by
    simpa using congrArg List.length hs'
  have hc  : m.sectionCount = _ := (parse_eq_ok_iff.mp hm).left.sectionCount_eq
  have hc' : m.sectionCount = _ := (parse_eq_ok_iff.mp hm').left.sectionCount_eq
  omega

-- The second section of a menu, still to be written.
theorem parse_of_commentInserted_pending :
    let o : ParseOptions := ⟨⟨"es", some "ca"⟩, 3, false⟩
    let content  := "Inicio\nBlog\n----------\n"
    let content' := "Inicio\nBlog\n----------\n# pendiente\n"
    ∃ m, parse o content = .ok m ∧ parse o content' ≠ .ok (m.renumber (Reading.shift 3)) := by
  intro o content content'
  have ⟨m, hm⟩ : ∃ m, parse o content = .ok m := (exists_ofSections_iff rfl).mpr (by decide)
  have hi : Text.LineInserted "# pendiente".toList (Text.lines content.toList).length
      (content.toList ++ []) (content.toList ++ "# pendiente".toList ++ ['\n']) :=
    .before (.inr (by decide))
  have hl : (Text.lines content.toList).length = 3 := by decide
  have hc : content.toList ++ "# pendiente".toList ++ ['\n'] = content'.toList := by decide
  rw [hl, hc, List.append_nil] at hi
  have hi : CommentInserted "# pendiente".toList 3 content content' := ⟨hi, by decide, by decide⟩
  exact ⟨m, hm, ((parse_of_commentInserted o hi).right (by decide)).right m hm⟩

end Menu

end MenuOutline
