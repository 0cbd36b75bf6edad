import MenuOutline.Proofs.Menu.Parses
import MenuOutline.Proofs.PageTree.Items
import MenuOutline.Proofs.Section.Partition

namespace MenuOutline

namespace Section

variable {maxDepth : Nat} {ls ls' : List SourceLine} {s : Section} {fault : TooDeep}

-- Whether a line holds a page, and one that is too deep.
def isTooDeep (maxDepth : Nat) (l : SourceLine) : Bool :=
  !Line.isIdle l.text && maxDepth ≤ Line.indentation l.text

def tooDeep (maxDepth : Nat) (l : SourceLine) : TooDeep where
  line  := l.number
  level := Line.indentation l.text
  maxDepth

-- The first of the lines that are too deep.
def firstTooDeep? (maxDepth : Nat) (ls : List SourceLine) : Option TooDeep :=
  (ls.find? (isTooDeep maxDepth)).map (tooDeep maxDepth)

theorem firstTooDeep?_append : firstTooDeep? maxDepth (ls ++ ls') =
    (firstTooDeep? maxDepth ls).or (firstTooDeep? maxDepth ls') := by
  rw [firstTooDeep?, List.find?_append, Option.map_or]
  rfl

theorem exists_firstTooDeep?_iff :
    (∃ fault, firstTooDeep? maxDepth ls = some fault) ↔ ∃ l ∈ ls, isTooDeep maxDepth l := by
  rw [← Option.isSome_iff_exists, firstTooDeep?, Option.isSome_map, List.find?_isSome]

theorem firstTooDeep?_eq_some_iff : firstTooDeep? maxDepth ls = some fault ↔
    ∃ before l after, ls = before ++ l :: after ∧ (∀ k ∈ before, ¬isTooDeep maxDepth k) ∧
      isTooDeep maxDepth l ∧ tooDeep maxDepth l = fault := by
  simp only [firstTooDeep?, Option.map_eq_some_iff, List.find?_eq_some_iff_append,
    Bool.not_eq_true', Bool.not_eq_true]
  constructor
  case mp  =>
    intro ⟨l, ⟨hl, before, after, hs, hb⟩, hf⟩
    exact ⟨before, l, after, hs, hb, hl, hf⟩
  case mpr =>
    intro ⟨before, l, after, hs, hb, hl, hf⟩
    exact ⟨l, ⟨hl, before, after, hs, hb⟩, hf⟩

theorem isTooDeep_eq_any (maxDepth : Nat) (l : SourceLine) :
    isTooDeep maxDepth l = (Item.ofSource? l).any (maxDepth ≤ ·.level) := by
  unfold isTooDeep Item.ofSource?
  split <;> simp [*]

theorem find?_items (maxDepth : Nat) (s : Section) :
    s.items.find? (maxDepth ≤ ·.level) = (s.find? (isTooDeep maxDepth)).bind Item.ofSource? := by
  rw [items, List.find?_filterMap, ← funext (isTooDeep_eq_any maxDepth)]

-- The lines of the first sections stand in the file in this order and under these numbers.
theorem flatten_take_sublist (n : Nat) (content : String) :
    ((split content).take n).flatten.Sublist (numberFrom 1 (Text.lines content.toList)) := by
  have h : (split content).flatten = _ := flatten_ofLines _
  rw [← List.take_append_drop n (split content), List.flatten_append] at h
  exact (List.sublist_append_left _ _).trans <| h ▸ List.filter_sublist

end Section

open Section

namespace PageTree

variable {language : String} {maxDepth d : Nat} {s : Section} {t : PageTree} {fault : TooDeep}

theorem build_eq_error_iff (language : String) :
    build language maxDepth s = .error fault ↔ firstTooDeep? maxDepth s = some fault := by
  rw [build_eq_ofItems, ofItems, find?_items, firstTooDeep?]
  cases h : s.find? (isTooDeep maxDepth)
  case none => simp
  case some l =>
    have hl := List.find?_some h
    rw [isTooDeep, Bool.and_eq_true, Bool.not_eq_true'] at hl
    simp [Item.ofSource?, hl.left, tooDeep]

theorem exists_build_iff_firstTooDeep? (language : String) :
    (∃ t, build language maxDepth s = .ok t) ↔ firstTooDeep? maxDepth s = none := by
  cases h : build language maxDepth s
  case error fault =>
    have hf := (build_eq_error_iff language).mp h
    exact iff_of_false nofun <| hf ▸ nofun
  case ok t =>
    refine iff_of_true ⟨t, rfl⟩ <| Option.eq_none_iff_forall_ne_some.mpr fun fault hf => ?_
    have he := (build_eq_error_iff language).mpr hf
    cases h.symm.trans he

-- A tree that is not too deep for some depth is none for a larger one.
theorem build_mono (h : build language maxDepth s = .ok t) (hd : maxDepth ≤ d) :
    build language d s = .ok t := by
  have ⟨hi, ht⟩ := build_eq_ok_iff.mp h
  exact build_eq_ok_iff.mpr ⟨fun i hm => Nat.lt_of_lt_of_le (hi i hm) hd, ht⟩

end PageTree

namespace Menu

variable {o : ParseOptions} {language : String} {maxDepth d : Nat} {s : Section}
  {sections : List Section} {m : Menu} {fault : TooDeep} {content : String}

theorem buildTree_eq_tooDeep_iff : buildTree language maxDepth s = .error (.tooDeep fault) ↔
    firstTooDeep? maxDepth s = some fault := by
  rw [← PageTree.build_eq_error_iff language, buildTree]
  cases PageTree.build language maxDepth s <;> simp [Except.mapError]

theorem exists_buildTree_iff :
    (∃ t, buildTree language maxDepth s = .ok t) ↔ firstTooDeep? maxDepth s = none := by
  simp only [buildTree_eq_ok_iff, PageTree.exists_build_iff_firstTooDeep?]

theorem ofSections_eq_tooDeep_iff : ofSections o sections = .error (.tooDeep fault) ↔
    firstTooDeep? o.maxDepth (sections.take 2).flatten = some fault := by
  have hc (m : Menu) : checkPairing o m ≠ .error (.tooDeep fault) := checkPairing_ne_error nofun
  match sections with
  | [] => exact iff_of_false nofun nofun
  | [first] =>
    rw [ofSections, bind_eq_error_iff, buildTree_eq_tooDeep_iff]
    simp [hc]
  | first :: second :: others =>
    rw [ofSections, bind_eq_error_iff, buildTree_eq_tooDeep_iff]
    simp only [bind_eq_error_iff, buildTree_eq_tooDeep_iff, hc, and_false,
      exists_false, or_false, exists_and_right, exists_buildTree_iff]
    simp [firstTooDeep?_append, Option.or_eq_some_iff]

theorem Parses.mono (h : Parses o sections m) (hd : o.maxDepth ≤ d) :
    Parses { o with maxDepth := d } sections m := by
  cases h
  case one hp    => exact .one (PageTree.build_mono hp hd)
  case two hp hq => exact .two (PageTree.build_mono hp hd) (PageTree.build_mono hq hd)

theorem parse_mono (h : parse o content = .ok m) (hd : o.maxDepth ≤ d) :
    parse { o with maxDepth := d } content = .ok m := by
  have ⟨hr, hs⟩ := parse_eq_ok_iff.mp h
  exact parse_eq_ok_iff.mpr ⟨hr.mono hd, hs⟩

-- A menu is too deep exactly if a line of its first two sections is. The error tells the first one
-- of these lines in the file. A larger depth changes nothing where the menu is not too deep.
theorem parse_tooDeep (o : ParseOptions) (content : String) :
    let lines := ((split content).take 2).flatten
    lines.Sublist (numberFrom 1 (Text.lines content.toList)) ∧
    ((∃ fault, parse o content = .error (.tooDeep fault)) ↔
      ∃ l ∈ lines, isTooDeep o.maxDepth l) ∧
    (∀ fault, parse o content = .error (.tooDeep fault) ↔
      ∃ before l after, lines = before ++ l :: after ∧
        (∀ k ∈ before, ¬isTooDeep o.maxDepth k) ∧ isTooDeep o.maxDepth l ∧
        tooDeep o.maxDepth l = fault) ∧
    ∀ m d, parse o content = .ok m → o.maxDepth ≤ d →
      parse { o with maxDepth := d } content = .ok m := by
  intro lines
  have he (fault : TooDeep) : parse o content = .error (.tooDeep fault) ↔
      firstTooDeep? o.maxDepth lines = some fault := ofSections_eq_tooDeep_iff
  refine ⟨flatten_take_sublist 2 content, ?_, fun fault => ?_, fun m d h hd => parse_mono h hd⟩
  · simp only [he, exists_firstTooDeep?_iff]
  · rw [he, firstTooDeep?_eq_some_iff]

-- A line too deep for any page to stand above it, with a comment before it and another such line
-- after it, and a menu that is just not too deep.
theorem parse_tooDeep_orphan :
    let o : ParseOptions := ⟨⟨"es", some "ca"⟩, 2, false⟩
    let content  := "Inicio\n----------\n        # nota\n\t\t\tCarta\nInici\n      Vins\n"
    let content' := "Inicio\n  Carta\n    # nota\nBlog\n"
    parse o content = .error (.tooDeep ⟨4, 3, 2⟩) ∧
      ∃ m, parse o content' = .ok m ∧ parse { o with maxDepth := 9 } content' = .ok m := by
  intro o content content'
  have hd := (parse_tooDeep o content).right.right.left ⟨4, 3, 2⟩
  have hm := (parse_tooDeep o content').right.right.right
  have ⟨m, h⟩ : ∃ m, parse o content' = .ok m := (exists_ofSections_iff rfl).mpr (by decide)
  refine ⟨hd.mpr ⟨[⟨1, "Inicio".toList⟩, ⟨3, "        # nota".toList⟩], ⟨4, "\t\t\tCarta".toList⟩,
    [⟨5, "Inici".toList⟩, ⟨6, "      Vins".toList⟩], ?_, ?_, ?_, ?_⟩, m, h, hm m 9 h (by decide)⟩
  all_goals decide +kernel

end Menu

end MenuOutline
