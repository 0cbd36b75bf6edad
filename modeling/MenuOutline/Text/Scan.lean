-- Reading at every place of a text: `read` answers what it made of the text that starts at a place,
-- or nothing.

namespace MenuOutline.Text

-- What follows a word at the start of the text.
def after? : List Char → List Char → Option (List Char)
  | [], cs => some cs
  | _ :: _, [] => none
  | w :: ws, c :: cs => if w = c then after? ws cs else none

theorem after?_eq_some_iff {word cs rest : List Char} :
    after? word cs = some rest ↔ cs = word ++ rest := by
  induction word generalizing cs with
  | nil => simp [after?]
  | cons w ws ih =>
    cases cs with
    | nil => simp [after?]
    | cons c cs =>
      by_cases h : w = c
      · simp [after?, h, ih]
      · simp [after?, h, Ne.symm h]

-- The first place where `read` answers: the text before it and the answer.
def find? {α : Type} (read : List Char → Option α) : List Char → Option (List Char × α)
  | [] => (read []).map ([], ·)
  | c :: cs =>
    match read (c :: cs) with
    | some a => some ([], a)
    | none => (find? read cs).map fun (before, a) => (c :: before, a)

-- Whether a word stands somewhere in the text.
def occurs (word cs : List Char) : Bool :=
  (find? (after? word) cs).isSome

-- The text before the first place where a word stands, or all of it.
def before (word cs : List Char) : List Char :=
  ((find? (after? word) cs).map (·.1)).getD cs

-- Deletes what `read` takes away, from left to right; `read` answers the rest.
def erase (read : List Char → Option (List Char)) (cs : List Char) : List Char :=
  match cs with
  | [] => []
  | c :: cs =>
    match read (c :: cs) with
    | none => c :: erase read cs
    | some rest => if rest.length ≤ cs.length then erase read rest else c :: erase read cs
termination_by cs.length

end MenuOutline.Text
