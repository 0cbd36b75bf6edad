-- Lines of a text. A line ends at a line feed or at a carriage return and a line feed; what follows
-- the last line feed is a line of its own unless it is empty.

namespace MenuOutline.Text

def lines : List Char → List (List Char)
  | [] => []
  | '\n' :: cs => [] :: lines cs
  | '\r' :: '\n' :: cs => [] :: lines cs
  | c :: cs =>
    match lines cs with
    | [] => [[c]]
    | line :: rest => (c :: line) :: rest

@[simp] theorem lines_nil : lines [] = [] := by
  simp [lines]

@[simp] theorem lines_newline (cs : List Char) : lines ('\n' :: cs) = [] :: lines cs := by
  simp [lines]

theorem lines_eq_nil_iff {cs : List Char} : lines cs = [] ↔ cs = [] := by
  fun_cases lines cs <;> simp_all

end MenuOutline.Text
