import MenuOutline.Proofs.Menu.Comments
import MenuOutline.Proofs.Text.Layout

namespace MenuOutline

namespace Reading

variable {xs ys zs : List (Reading × Nat)} {rs ts extra : List Reading} {k : Nat}

theorem splitOnP_filter {α : Type} {p q : α → Bool} (h : ∀ a, q a → p a) (as : List α) :
    (as.filter p).splitOnP q = (as.splitOnP q).map (List.filter p) := by
  induction as
  case nil => simp
  case cons a as hi =>
    rw [List.splitOnP_cons_eq_if_modifyHead]
    cases hq : q a
    case true =>
      rw [List.filter_cons_of_pos (h a hq), List.splitOnP_cons_eq_if_modifyHead]
      simp [hq, hi]
    case false =>
      cases hs : as.splitOnP q
      case nil => exact absurd hs (List.splitOnP_ne_nil _ _)
      case cons stretch stretches =>
        cases hp : p a
        case true =>
          rw [List.filter_cons_of_pos hp, List.splitOnP_cons_eq_if_modifyHead]
          simp [hq, hi, hs, hp]
        case false => simp [hi, hs, hp]

-- Blank lines have no part in the sections.
theorem sections_filter (xs : List (Reading × Nat)) :
    sections (xs.filter (·.1 != blank)) = sections xs := by
  have hd : ∀ x : Reading × Nat, x.1 == delimiter → x.1 != blank := by simp +contextual
  have ha : (·.any (·.1 != blank)) ∘ List.filter (·.1 != blank) =
      fun xs : List (Reading × Nat) => xs.any (·.1 != blank) := by
    funext xs
    simp [List.any_filter]
  rw [sections, splitOnP_filter hd, sections, itemLists, itemLists, List.filter_map, ha,
    List.map_map]
  refine List.map_congr_left fun xs _ => ?_
  rw [Function.comp, List.filterMap_filter]
  refine List.filterMap_congr fun x _ => ?_
  obtain ⟨r, n⟩ := x
  cases r <;> rfl

theorem sections_append_blanks (hb : ∀ z ∈ zs, z.1 = blank) :
    sections (xs ++ zs ++ ys) = sections (xs ++ ys) := by
  have hz : zs.filter (·.1 != blank) = [] := by simpa using hb
  rw [← sections_filter, ← sections_filter (xs ++ ys)]
  simp [hz]

theorem forall_mem_zipIdx (hb : ∀ r ∈ extra, r = blank) (n : Nat) :
    ∀ z ∈ extra.zipIdx n, z.1 = blank :=
  fun _ hz => hb _ (List.fst_mem_of_mem_zipIdx hz)

-- One more blank line moves the lines after it on by one.
theorem sections_blanks_inserted (hk : rs.length = k) (hb : ∀ r ∈ extra, r = blank)
    (hl : extra.length = 1 ∨ ts = []) : sections ((rs ++ extra ++ ts).zipIdx 1) =
      (sections ((rs ++ ts).zipIdx 1)).map (·.map (.renumber (shift k))) := by
  rw [← sections_renumber, zipIdx_shift hk, List.zipIdx_append, List.zipIdx_append,
    sections_append_blanks (forall_mem_zipIdx hb _), List.length_append, hk]
  cases hl
  case inl hl => rw [hl, Nat.add_comm 1]
  case inr ht => rw [ht, List.zipIdx_nil, List.zipIdx_nil]

end Reading

namespace Menu

variable {content content' : String} {k : Nat}

theorem renumberOutcome_id (outcome : Except MenuError Menu) :
    renumberOutcome id outcome = outcome := by
  cases outcome
  case error e => cases e <;> rfl
  case ok m    => simp [renumberOutcome, Except.map, Except.mapError, renumber]

theorem parse_of_padded (o : ParseOptions) (h : Text.Padded content.toList content'.toList) :
    parse o content' = parse o content := by
  have ⟨extra, hr, hb⟩ := h.exists_map_lines fun _ _ => Reading.ofLine_append
  have hs : (Section.split content').map Section.items =
      (Section.split content).map (·.items.map (.renumber id)) := by
    rw [Section.map_items_split, Section.readings, hr, List.zipIdx_append,
      ← List.append_nil (_ ++ _), Reading.sections_append_blanks (Reading.forall_mem_zipIdx hb _), List.append_nil]
    have hi : (fun s : Section => s.items.map (.renumber id)) = Section.items :=
      funext fun s => List.map_id _
    rw [hi, Section.map_items_split, Section.readings]
  rw [parse, ofSections_renumber hs, renumberOutcome_id]
  rfl

theorem parse_of_blankInserted (o : ParseOptions)
    (h : Text.BlankInserted k content.toList content'.toList) :
    parse o content' = renumberOutcome (Reading.shift k) (parse o content) := by
  have ⟨rs, extra, ts, hr, hr', hk, hb, hl⟩ := h.exists_map_lines fun _ _ => Reading.ofLine_append
  refine ofSections_renumber ?_
  have hs := Section.map_items_split content
  rw [Section.readings, hr] at hs
  rw [Section.map_items_split, Section.readings, hr', Reading.sections_blanks_inserted hk hb hl,
    ← hs, List.map_map]
  rfl

-- How a menu is laid out makes no difference to what is read: neither how its lines end, nor the
-- blanks behind them, nor blank lines, but for the numbers of the lines after these.
theorem parse_layout (o : ParseOptions) (content : String) :
    parse o (.ofList (Text.withReturns content.toList)) = parse o content ∧
    (∀ content' : String, Text.Padded content.toList content'.toList →
      parse o content' = parse o content) ∧
    ∀ (k : Nat) (content' : String), Text.BlankInserted k content.toList content'.toList →
      parse o content' = renumberOutcome (Reading.shift k) (parse o content) := by
  refine ⟨?_, fun _ => parse_of_padded o, fun _ _ => parse_of_blankInserted o⟩
  rw [parse, Section.split, String.toList_ofList, Text.lines_withReturns]
  rfl

-- Blanks of several kinds, both line endings, and a line that is dropped and moves on by one.
theorem parse_layout_orphan :
    let o : ParseOptions := ⟨⟨"es", none⟩, 3, false⟩
    let content  := "Inicio\n    Nieto"
    let padded   := "Inicio \t\r\n    Nieto\u2003\r"
    let inserted := "Inicio\n \u00A0\r\n    Nieto"
    (parse o content).map (·.droppedLines) = .ok [2] ∧
      parse o (.ofList (Text.withReturns content.toList)) = parse o content ∧
      parse o padded = parse o content ∧
      parse o inserted = renumberOutcome (Reading.shift 1) (parse o content) ∧
      (parse o inserted).map (·.droppedLines) = .ok [3] := by
  intro o content padded inserted
  have ⟨hr, hp, hi⟩ := parse_layout o content
  have hpadded : Text.Padded ("Inicio".toList ++ ['\n'] ++ "    Nieto".toList)
      ("Inicio".toList ++ " \t".toList ++ ['\r', '\n'] ++
        ("    Nieto".toList ++ "\u2003\r".toList)) :=
    .line (by decide) (by decide) .newline .returned <| .last (by decide) (by decide)
  have hinserted : Text.BlankInserted (Text.lines "Inicio\n".toList).length
      ("Inicio\n".toList ++ "    Nieto".toList)
      ("Inicio\n".toList ++ " \u00A0".toList ++ ['\r', '\n'] ++ "    Nieto".toList) :=
    .before (by decide) (by decide) .returned
  have hl : (Text.lines "Inicio\n".toList).length = 1 := by decide
  rw [hl] at hinserted
  have hp := hp padded <| by simpa [content, padded] using hpadded
  have hi := hi 1 inserted <| by simpa [content, inserted] using hinserted
  exact ⟨by decide +kernel, hr, hp, hi, by decide +kernel⟩

end Menu

end MenuOutline
