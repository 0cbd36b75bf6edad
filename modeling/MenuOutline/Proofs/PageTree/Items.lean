import MenuOutline.PageTree
import MenuOutline.Proofs.Outline.Arrange

namespace MenuOutline

-- What a page tree takes from a line: its number, its level, and its text without indentation and
-- bullet.
structure Item where
  number : Nat
  level  : Nat
  text   : List Char
deriving DecidableEq, Repr

namespace Item

def ofSource? (source : SourceLine) : Option Item :=
  if Line.isIdle source.text then none
  else some
    { number := source.number
      level  := Line.indentation source.text
      text   := Line.dropBullet (Text.trim source.text) }

def line (language : String) (i : Item) : Line :=
  .ofLabel language i.level i.text

def page (language : String) (i : Item) : Page :=
  .ofLine (i.line language)

def renumber (f : Nat → Nat) (i : Item) : Item :=
  { i with number := f i.number }

theorem read?_eq {language : String} {source : SourceLine} :
    Line.read? language source.text = (ofSource? source).map (line language) := by
  unfold Line.read? ofSource?
  split <;> rfl

end Item

def Section.items (s : Section) : List Item :=
  s.filterMap Item.ofSource?

-- The items at the places of their pages.
def Section.outline (s : Section) : Outline Item :=
  (Outline.arrange Item.level s.items).outline

def TooDeep.renumber (f : Nat → Nat) (fault : TooDeep) : TooDeep :=
  { fault with line := f fault.line }

namespace PageTree

variable {language : String} {maxDepth : Nat} {s s' : Section} {t : PageTree} {i : Item}
  {items : List Item} {r : Outline.Arranged Item}

def renumber (f : Nat → Nat) (t : PageTree) : PageTree :=
  { t with dropped := t.dropped.map f }

def ofArranged (language : String) (r : Outline.Arranged Item) : PageTree where
  pages   := r.outline.map (Item.page language)
  dropped := r.strays.map (·.number)

-- The tree of items, unless one of them is too deep.
def ofItems (language : String) (maxDepth : Nat) (items : List Item) : Except TooDeep PageTree :=
  match items.find? (maxDepth ≤ ·.level) with
  | some i => .error { line := i.number, level := i.level, maxDepth }
  | none   => .ok (ofArranged language (Outline.arrange Item.level items))

theorem add_ofArranged :
    (ofArranged language r).add i.number (i.page language) =
      ofArranged language (r.add Item.level i) := by
  have h : (ofArranged language r).pages.append? (i.page language) (i.page language).level =
      (r.outline.append? i i.level).map (Outline.map (Item.page language)) :=
    Outline.append?_map _
  rw [add, h, Outline.Arranged.add]
  cases r.outline.append? i i.level
  case none   => simp [ofArranged]
  case some o => rfl

theorem addLines_ofArranged :
    addLines language maxDepth (ofArranged language r) s =
      match s.items.find? (maxDepth ≤ ·.level) with
      | some i => .error { line := i.number, level := i.level, maxDepth }
      | none   => .ok (ofArranged language (s.items.foldl (.add Item.level) r)) := by
  induction s generalizing r
  case nil => rfl
  case cons source sources hi =>
    rw [addLines, Item.read?_eq]
    cases h : Item.ofSource? source
    case none =>
      rw [Section.items, List.filterMap_cons_none h]
      exact hi
    case some i =>
      rw [Section.items, List.filterMap_cons_some h, List.find?_cons]
      have hn : i.number = source.number := by
        unfold Item.ofSource? at h
        split at h <;> cases h
        rfl
      by_cases hd : maxDepth ≤ i.level
      case pos => simp [Item.line, Line.ofLabel, hd, hn]
      case neg =>
        simp only [Option.map_some, Item.line, Line.ofLabel, hd, if_false, decide_false,
          List.foldl_cons, ← hn]
        exact (congrArg (addLines language maxDepth · sources) add_ofArranged).trans hi

-- Nothing but the items of a section is in its tree.
theorem build_eq_ofItems : build language maxDepth s = ofItems language maxDepth s.items :=
  addLines_ofArranged (r := .empty)

theorem build_eq_ok_iff : build language maxDepth s = .ok t ↔
    (∀ i ∈ s.items, i.level < maxDepth) ∧
      t = ofArranged language (Outline.arrange Item.level s.items) := by
  rw [build_eq_ofItems, ofItems]
  cases h : s.items.find? (maxDepth ≤ ·.level)
  case none =>
    have hd : ∀ i ∈ s.items, i.level < maxDepth := by simpa using h
    exact ⟨fun ht => ⟨hd, (Except.ok.inj ht).symm⟩, fun ht => congrArg _ ht.right.symm⟩
  case some i =>
    have hi : maxDepth ≤ i.level := by simpa using List.find?_some h
    have hm := List.mem_of_find?_eq_some h
    exact iff_of_false nofun fun ⟨hd, _⟩ => Nat.not_lt_of_le hi (hd i hm)

theorem pages_of_build (h : build language maxDepth s = .ok t) :
    t.pages = s.outline.map (Item.page language) := by
  rw [(build_eq_ok_iff.mp h).right]
  rfl

-- The numbers of the lines are only passed on.
theorem ofItems_renumber (f : Nat → Nat) :
    ofItems language maxDepth (items.map (.renumber f)) =
      ((ofItems language maxDepth items).map (renumber f)).mapError (.renumber f) := by
  have hl : Item.level ∘ Item.renumber f = Item.level := rfl
  have hp : Item.page language ∘ Item.renumber f = Item.page language := rfl
  have hn : (·.number) ∘ Item.renumber f = f ∘ (·.number) := rfl
  have hd : (fun i : Item => decide (maxDepth ≤ i.level)) ∘ Item.renumber f =
      fun i => decide (maxDepth ≤ i.level) := rfl
  rw [ofItems, ofItems, List.find?_map, hd]
  cases items.find? (maxDepth ≤ ·.level)
  case some i => rfl
  case none =>
    simp only [Option.map_none, Except.map, Except.mapError, Outline.arrange_map, hl, ofArranged,
      Outline.Arranged.map, Outline.map_map, hp, List.map_map, hn, renumber]

end PageTree

end MenuOutline
