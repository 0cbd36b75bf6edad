import MenuOutline.Proofs.PageTree.Items
import MenuOutline.Proofs.Text.Lines
import MenuOutline.Proofs.Text.Trim
import Mathlib

namespace MenuOutline

-- What a menu makes of a line.
inductive Reading where
  | delimiter
  | blank
  | comment
  | entry (level : Nat) (text : List Char)
deriving DecidableEq, Repr

namespace Reading

variable {bs cs : List Char} {p : Char → Bool}

def ofLine (cs : List Char) : Reading :=
  if Section.isDelimiter cs then delimiter
  else if Text.isBlankText cs then blank
  else if Line.isIdle cs then comment
  else entry (Line.indentation cs) (Line.dropBullet (Text.trim cs))

theorem takeWhile_append_of_exists (h : ∃ c ∈ cs, p c = false) :
    (cs ++ bs).takeWhile p = cs.takeWhile p := by
  induction cs
  case nil => simp at h
  case cons c cs hi =>
    cases hc : p c
    case false => simp [hc]
    case true  => simp [hc, hi (by simpa [hc] using h)]

theorem indentation_append (h : Text.isBlankText cs = false) :
    Line.indentation (cs ++ bs) = Line.indentation cs := by
  have ⟨c, hc, hb⟩ : ∃ c ∈ cs, Text.isBlank c = false := by simpa [Text.isBlankText] using h
  have ht : (c == '\t') = false := beq_false_of_ne <| by rintro rfl; contradiction
  have hh : (cs ++ bs).head? = cs.head? :=
    List.head?_append_of_ne_nil cs (List.ne_nil_of_mem hc)
  rw [Line.indentation, Line.indentation, hh, takeWhile_append_of_exists ⟨c, hc, ht⟩,
    takeWhile_append_of_exists ⟨c, hc, hb⟩]

theorem isDelimiter_eq_false_of_isBlankText (h : Text.isBlankText cs) :
    Section.isDelimiter cs = false := by
  rw [Section.isDelimiter, Text.trim_eq_nil_of_isBlankText h]
  rfl

theorem ofLine_eq_delimiter_iff : ofLine cs = delimiter ↔ Section.isDelimiter cs := by
  unfold ofLine
  split_ifs <;> simp_all

theorem ofLine_eq_blank_iff : ofLine cs = blank ↔ Text.isBlankText cs := by
  have h : Text.isBlankText cs → Section.isDelimiter cs = false :=
    isDelimiter_eq_false_of_isBlankText
  unfold ofLine
  split_ifs <;> simp_all

theorem ofLine_eq_comment (h : (Text.trim cs).head? = some '#') : ofLine cs = comment := by
  have ⟨rest, ht⟩ := List.head?_eq_some_iff.mp h
  have hd : Section.isDelimiter cs = false := by simp [Section.isDelimiter, ht]
  have hb : Text.isBlankText cs = false :=
    Bool.eq_false_iff.mpr fun hb => by simp [Text.trim_eq_nil_of_isBlankText hb] at ht
  simp [ofLine, hd, hb, Line.isIdle, ht]

-- Blanks at the end of a line say nothing.
theorem ofLine_append (hb : bs.all Text.isBlank) : ofLine (cs ++ bs) = ofLine cs := by
  have hd : Section.isDelimiter (cs ++ bs) = Section.isDelimiter cs := by
    rw [Section.isDelimiter, Section.isDelimiter, Text.trim_append_blanks cs hb]
  have hi : Line.isIdle (cs ++ bs) = Line.isIdle cs := by
    rw [Line.isIdle, Line.isIdle, Text.trim_append_blanks cs hb]
  rw [ofLine, ofLine, hd, hi, Text.isBlankText_append hb, Text.trim_append_blanks cs hb]
  cases h : Text.isBlankText cs
  case true  => rfl
  case false => rw [indentation_append h]

-- The item of a line that has one.
def item? : Reading × Nat → Option Item
  | (entry level text, number) => some { number, level, text }
  | _ => none

-- The items of the stretches that are not all blank.
def itemLists (stretches : List (List (Reading × Nat))) : List (List Item) :=
  (stretches.filter (·.any (·.1 != blank))).map (·.filterMap item?)

-- The items of the sections that numbered lines make.
def sections (ns : List (Reading × Nat)) : List (List Item) :=
  itemLists (ns.splitOnP (·.1 == delimiter))

variable {ns xs ys : List (Reading × Nat)} {x : Reading × Nat}

theorem itemLists_cons (stretch : List (Reading × Nat)) (stretches : List (List (Reading × Nat))) :
    itemLists (stretch :: stretches) =
      (if stretch.any (·.1 != blank) then [stretch.filterMap item?] else []) ++
        itemLists stretches := by
  rw [itemLists, List.filter_cons]
  split <;> rfl

theorem splitOnP_cons_of_neg {α : Type} {q : α → Bool} {x : α} {xs stretch : List α}
    {stretches : List (List α)} (hs : xs.splitOnP q = stretch :: stretches) (h : q x = false) :
    (x :: xs).splitOnP q = (x :: stretch) :: stretches := by
  rw [List.splitOnP_cons_eq_if_modifyHead, if_neg (by simp [h]), hs, List.modifyHead_cons]

theorem sections_append_delimiter (h : x.1 = delimiter) :
    sections (xs ++ x :: ys) = sections xs ++ sections ys := by
  rw [sections, List.splitOnP_append_cons _ _ (by simp [h]), itemLists, List.filter_append,
    List.map_append]
  rfl

theorem sections_of_forall_ne (h : ∀ x ∈ ns, x.1 ≠ delimiter) :
    sections ns = if ns.any (·.1 != blank) then [ns.filterMap item?] else [] := by
  rw [sections, List.splitOnP_eq_singleton (by simpa using h), itemLists_cons]
  exact List.append_nil _

theorem sections_of_text (hd : ∀ x ∈ ns, x.1 ≠ delimiter) (ht : ∃ x ∈ ns, x.1 ≠ blank) :
    sections ns = [ns.filterMap item?] := by
  rw [sections_of_forall_ne hd, if_pos]
  simpa using ht

theorem sections_of_blank (hb : ∀ x ∈ ns, x.1 = blank) : sections ns = [] := by
  rw [sections_of_forall_ne fun x hx => hb x hx ▸ nofun, if_neg]
  simpa using hb

theorem filterMap_eq_nil_of_blank (hb : ∀ x ∈ ns, x.1 = blank) : ns.filterMap item? = [] := by
  refine List.filterMap_eq_nil_iff.mpr fun (r, n) hx => ?_
  rw [show r = blank from hb _ hx]
  rfl

-- A section reaches back to the last delimiter before it,
theorem exists_sections_append_left (xs : List (Reading × Nat)) : ∃ init, ∀ ys,
    sections (xs ++ ys) = init ++ sections (xs.rtakeWhile (·.1 != delimiter) ++ ys) := by
  induction xs using List.reverseRecOn
  case nil => exact ⟨[], fun _ => rfl⟩
  case append_singleton xs x hi =>
    by_cases hx : x.1 = delimiter
    case pos =>
      refine ⟨sections xs, fun ys => ?_⟩
      rw [List.rtakeWhile_concat_neg _ _ _ (by simp [hx]), List.append_assoc]
      exact sections_append_delimiter hx
    case neg =>
      have ⟨init, hi⟩ := hi
      refine ⟨init, fun ys => ?_⟩
      rw [List.rtakeWhile_concat_pos _ _ _ (by simp [hx]), List.append_assoc, List.append_assoc]
      exact hi _

-- and on to the first one after it.
theorem exists_sections_append_right (ys : List (Reading × Nat)) : ∃ rest, ∀ xs,
    sections (xs ++ ys) = sections (xs ++ ys.takeWhile (·.1 != delimiter)) ++ rest := by
  induction ys
  case nil => exact ⟨[], fun _ => (List.append_nil _).symm⟩
  case cons y ys hi =>
    by_cases hy : y.1 = delimiter
    case pos =>
      refine ⟨sections ys, fun xs => ?_⟩
      rw [List.takeWhile_cons_of_neg (by simp [hy]), List.append_nil]
      exact sections_append_delimiter hy
    case neg =>
      have ⟨rest, hi⟩ := hi
      refine ⟨rest, fun xs => ?_⟩
      rw [List.takeWhile_cons_of_pos (by simp [hy]), List.append_cons, hi, ← List.append_cons]

end Reading

namespace Section

variable {source : SourceLine} {sources : List SourceLine} {css : List (List Char)} {n : Nat}

-- What a menu makes of a line, and where.
def reading (source : SourceLine) : Reading × Nat :=
  (.ofLine source.text, source.number)

theorem map_reading_numberFrom :
    (numberFrom n css).map reading = (css.map Reading.ofLine).zipIdx n := by
  induction css generalizing n
  case nil            => rfl
  case cons cs css hi => simp [numberFrom, reading, hi]

theorem ofSource?_eq (h : isDelimiter source.text = false) :
    Item.ofSource? source = Reading.item? (reading source) := by
  rw [reading, Reading.ofLine, if_neg (by simp [h]), Item.ofSource?]
  by_cases hb : Text.isBlankText source.text
  case pos =>
    have hi : Line.isIdle source.text := by
      rw [Line.isIdle, Text.trim_eq_nil_of_isBlankText hb]
    simp [hb, hi, Reading.item?]
  case neg =>
    cases hi : Line.isIdle source.text <;> simp [hb, Reading.item?]

theorem map_items_consNonEmpty {s : Section} {sections : List Section}
    {stretch : List (Reading × Nat)} {stretches : List (List (Reading × Nat))}
    (hs : s.items = stretch.filterMap Reading.item?)
    (he : s.isEmpty = !stretch.any (·.1 != .blank))
    (ho : sections.map items = Reading.itemLists stretches) :
    (consNonEmpty s sections).map items = Reading.itemLists (stretch :: stretches) := by
  rw [Reading.itemLists_cons, consNonEmpty, he, ← hs, ← ho]
  cases stretch.any (·.1 != .blank) <;> rfl

theorem splitLines_of_delimiter (hd : isDelimiter source.text) :
    splitLines (source :: sources) =
      ([], consNonEmpty (splitLines sources).1 (splitLines sources).2) := by
  simp [splitLines, hd]

theorem splitLines_of_blank (hb : Text.isBlankText source.text) :
    splitLines (source :: sources) = splitLines sources := by
  simp [splitLines, hb, Reading.isDelimiter_eq_false_of_isBlankText hb]

theorem splitLines_of_text (hd : isDelimiter source.text = false)
    (hb : Text.isBlankText source.text = false) :
    splitLines (source :: sources) =
      (source :: (splitLines sources).1, (splitLines sources).2) := by
  simp [splitLines, hd, hb]

-- The lines are split at the delimiters, and what is blank is left out.
theorem splitLines_eq (sources : List SourceLine) : ∃ stretch stretches,
    (sources.map reading).splitOnP (·.1 == .delimiter) = stretch :: stretches ∧
      (splitLines sources).1.items = stretch.filterMap Reading.item? ∧
      (splitLines sources).1.isEmpty = !stretch.any (·.1 != .blank) ∧
      (splitLines sources).2.map items = Reading.itemLists stretches := by
  -- From the last line back: the first stretch is the section that is being collected, with the
  -- blank lines that the section leaves out.
  induction sources
  case nil => exact ⟨[], [], by simp, rfl, rfl, rfl⟩
  case cons source sources hi =>
    have ⟨stretch, stretches, hs, hf, he, ho⟩ := hi
    cases hd : isDelimiter source.text
    case true =>
      have hr : (reading source).1 = .delimiter := Reading.ofLine_eq_delimiter_iff.mpr hd
      rw [splitLines_of_delimiter hd]
      refine ⟨[], stretch :: stretches, ?_, rfl, rfl, map_items_consNonEmpty hf he ho⟩
      rw [List.map_cons, List.splitOnP_cons_eq_if_modifyHead, hr, hs]
      rfl
    case false =>
      have hr : ((reading source).1 == .delimiter) = false := by
        simp [reading, Reading.ofLine_eq_delimiter_iff, hd]
      refine ⟨reading source :: stretch, stretches, Reading.splitOnP_cons_of_neg hs hr, ?_⟩
      rw [List.filterMap_cons, ← ofSource?_eq hd, List.any_cons]
      cases hb : Text.isBlankText source.text
      case true =>
        have hr : reading source = (.blank, source.number) := by
          rw [reading, Reading.ofLine_eq_blank_iff.mpr hb]
        rw [splitLines_of_blank hb, ofSource?_eq hd, hr]
        exact ⟨hf, he, ho⟩
      case false =>
        have hr : ((reading source).1 != .blank) = true := by
          simp [reading, Reading.ofLine_eq_blank_iff, hb]
        rw [splitLines_of_text hd hb, hr]
        exact ⟨by rw [items, List.filterMap_cons, ← hf]; rfl, rfl, ho⟩

def readings (content : String) : List Reading :=
  (Text.lines content.toList).map .ofLine

theorem map_items_split (content : String) :
    (split content).map items = Reading.sections ((readings content).zipIdx 1) := by
  have ⟨stretch, stretches, hs, hf, he, ho⟩ :=
    splitLines_eq (numberFrom 1 (Text.lines content.toList))
  rw [map_reading_numberFrom] at hs
  rw [Reading.sections, readings, hs]
  exact map_items_consNonEmpty hf he ho

end Section

end MenuOutline
