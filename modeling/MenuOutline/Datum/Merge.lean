import MenuOutline.Datum.Basic

-- Overlays: settings laid over others. Tables are merged key by key; any other datum of the overlay
-- replaces what it covers.

namespace MenuOutline.Datum

mutual

def merge (base : Datum) : Datum → Datum
  | .table overlay =>
    match base with
    | .table members => .table (mergeMembers members overlay)
    | _ => .table overlay
  | d => d

def mergeMembers (base : Keyed Datum) : List (String × Datum) → Keyed Datum
  | [] => base
  | (key, d) :: ms =>
    (mergeMembers base ms).insert key <| match base.lookup key with
      | some covered => merge covered d
      | none => d

end

-- The datum at the end of a path of keys.
def get? : List String → Datum → Option Datum
  | [], d => some d
  | key :: path, .table ms => (ms.lookup key).bind (get? path)
  | _ :: _, _ => none

end MenuOutline.Datum
