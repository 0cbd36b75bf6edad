import MenuOutline.Decimal.Shortest
import MenuOutline.Keyed

-- Data: the values that settings files and manifests are made of.

namespace MenuOutline

inductive Datum where
  | null
  | bool (b : Bool)
  | int (n : Int)
  | float (x : Binary64)
  | text (s : String)
  -- A date, a time or both, as the text in which it is usually written.
  | date (s : String)
  | list (items : List Datum)
  | table (members : List (String × Datum))
deriving Inhabited, Repr

namespace Datum

mutual

def decEq : (d e : Datum) → Decidable (d = e)
  | .null, .null => isTrue rfl
  | .bool a, .bool b => decidable_of_iff (a = b) (by simp)
  | .int a, .int b => decidable_of_iff (a = b) (by simp)
  | .float a, .float b => decidable_of_iff (a = b) (by simp)
  | .text a, .text b => decidable_of_iff (a = b) (by simp)
  | .date a, .date b => decidable_of_iff (a = b) (by simp)
  | .list as, .list bs =>
    match decEqItems as bs with
    | isTrue h => isTrue (by rw [h])
    | isFalse h => isFalse (by simpa using h)
  | .table as, .table bs =>
    match decEqMembers as bs with
    | isTrue h => isTrue (by rw [h])
    | isFalse h => isFalse (by simpa using h)
  | .null, .bool _ | .null, .int _ | .null, .float _ | .null, .text _ | .null, .date _
  | .null, .list _ | .null, .table _ | .bool _, .null | .bool _, .int _ | .bool _, .float _
  | .bool _, .text _ | .bool _, .date _ | .bool _, .list _ | .bool _, .table _ | .int _, .null
  | .int _, .bool _ | .int _, .float _ | .int _, .text _ | .int _, .date _ | .int _, .list _
  | .int _, .table _ | .float _, .null | .float _, .bool _ | .float _, .int _ | .float _, .text _
  | .float _, .date _ | .float _, .list _ | .float _, .table _ | .text _, .null | .text _, .bool _
  | .text _, .int _ | .text _, .float _ | .text _, .date _ | .text _, .list _ | .text _, .table _
  | .date _, .null | .date _, .bool _ | .date _, .int _ | .date _, .float _ | .date _, .text _
  | .date _, .list _ | .date _, .table _ | .list _, .null | .list _, .bool _ | .list _, .int _
  | .list _, .float _ | .list _, .text _ | .list _, .date _ | .list _, .table _ | .table _, .null
  | .table _, .bool _ | .table _, .int _ | .table _, .float _ | .table _, .text _
  | .table _, .date _ | .table _, .list _ => isFalse (by simp)

def decEqItems : (ds es : List Datum) → Decidable (ds = es)
  | [], [] => isTrue rfl
  | d :: ds, e :: es =>
    match decEq d e, decEqItems ds es with
    | isTrue h, isTrue hs => isTrue (by rw [h, hs])
    | isFalse h, _ => isFalse (by simp [h])
    | _, isFalse hs => isFalse (by simp [hs])
  | [], _ :: _ | _ :: _, [] => isFalse (by simp)

def decEqMembers : (ms ns : List (String × Datum)) → Decidable (ms = ns)
  | [], [] => isTrue rfl
  | (k, d) :: ms, (l, e) :: ns =>
    match decEq d e, decEqMembers ms ns with
    | isTrue h, isTrue hs => decidable_of_iff (k = l) (by simp [h, hs])
    | isFalse h, _ => isFalse (by simp [h])
    | _, isFalse hs => isFalse (by simp [hs])
  | [], _ :: _ | _ :: _, [] => isFalse (by simp)

end

instance : DecidableEq Datum := decEq

end Datum

end MenuOutline
