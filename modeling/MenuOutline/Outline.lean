-- Outlines: entries in order, each with an outline of its own below it.

namespace MenuOutline

-- An outline is empty, or a first entry with what is below it and what comes after it.
inductive Outline (α : Type) where
  | nil
  | cons (entry : α) (below after : Outline α)
deriving DecidableEq, Repr

namespace Outline

variable {α β γ : Type}

def isEmpty : Outline α → Bool
  | nil => true
  | cons .. => false

-- The count of entries at the top.
def length : Outline α → Nat
  | nil => 0
  | cons _ _ after => after.length + 1

-- All entries: each one, then those below it, then those after it.
def entries : Outline α → List α
  | nil => []
  | cons a below after => a :: (below.entries ++ after.entries)

-- The count of all entries.
def size : Outline α → Nat
  | nil => 0
  | cons _ below after => 1 + below.size + after.size

theorem length_entries (o : Outline α) : o.entries.length = o.size := by
  induction o with
  | nil => rfl
  | cons a below after hb ha =>
    simp only [entries, List.length_cons, List.length_append, size]
    omega

-- Makes an entry of each entry and of what is below it.
def mapWithBelow (f : α → Outline α → β) : Outline α → Outline β
  | nil => nil
  | cons a below after => cons (f a below) (below.mapWithBelow f) (after.mapWithBelow f)

-- Makes an entry of each entry and of the one at the same place in another outline, if it has one
-- there.
def pairWith (f : α → Option β → γ) : Outline α → Outline β → Outline γ
  | nil, _ => nil
  | cons a below after, cons b below' after' =>
    cons (f a (some b)) (pairWith f below below') (pairWith f after after')
  | cons a below after, nil => cons (f a none) (pairWith f below nil) (pairWith f after nil)

-- Appends an entry so many levels down, below the last entry one level up. There is no place for it
-- when that entry does not exist.
def append? (a : α) : Nat → Outline α → Option (Outline α)
  | 0, nil => some (cons a nil nil)
  | _ + 1, nil => none
  | 0, cons b below after => (after.append? a 0).map (cons b below)
  | level + 1, cons b below nil => (below.append? a level).map (cons b · nil)
  | level + 1, cons b below after => (after.append? a (level + 1)).map (cons b below)

end Outline

end MenuOutline
