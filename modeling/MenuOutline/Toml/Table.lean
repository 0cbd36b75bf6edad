import MenuOutline.Datum.Basic

-- Tables as they are built from a settings file. Where a table comes from decides what may still be
-- added to it: a table with a header of its own cannot be reached by a dotted key, nor be headed
-- twice.

namespace MenuOutline.Toml

-- Where a table comes from.
inductive Origin where
  -- It has a header of its own.
  | headed
  -- It stands on the way to a table with a header.
  | passed
  -- It stands on the way of a dotted key.
  | dotted
deriving DecidableEq, Repr

-- What a key holds.
inductive Entry where
  | value (d : Datum)
  | table (origin : Origin) (entries : List (String × Entry))
  -- A list of tables; the last one is still open.
  | tables (closed : List Datum) (last : List (String × Entry))

abbrev Entries := List (String × Entry)

namespace Entry

mutual

def toDatum : Entry → Datum
  | value d => d
  | table _ entries => .table (Keyed.ofList (membersOf entries))
  | tables closed last => .list (closed ++ [.table (Keyed.ofList (membersOf last))])

def membersOf : List (String × Entry) → List (String × Datum)
  | [] => []
  | (key, e) :: es => (key, toDatum e) :: membersOf es

end

end Entry

namespace Entries

def toDatum (es : Entries) : Datum :=
  .table (Keyed.ofList (Entry.membersOf es))

-- Gives a key an entry, in the place of the one that it had.
def set (es : Entries) (key : String) (e : Entry) : Entries :=
  es.filter (·.1 != key) ++ [(key, e)]

-- Changes the table at the end of a path. Missing tables on the way are made; `dotted` tells
-- whether the path is that of a dotted key. The change is told where its table comes from.
def changeAt (dotted : Bool) (change : Origin → Entries → Option Entries) (origin : Origin)
    (es : Entries) : List String → Option Entries
  | [] => change origin es
  | key :: path =>
    match es.lookup key with
    | none => do
      let origin := if dotted then .dotted else .passed
      return es.set key (.table origin (← changeAt dotted change origin [] path))
    | some (.value _) => none
    | some (.tables closed last) => do
      return es.set key (.tables closed (← changeAt dotted change .headed last path))
    | some (.table origin inner) =>
      if dotted ∧ origin = .headed then none
      else do return es.set key (.table origin (← changeAt dotted change origin inner path))

-- Adds a datum under a new key, at the end of the path of a dotted key.
def addDatum (es : Entries) (path : List String) (key : String) (d : Datum) : Option Entries :=
  changeAt true
    (fun origin es =>
      if (origin = .dotted) = (path = []) ∨ (es.lookup key).isSome then none
      else some (es.set key (.value d)))
    .headed es path

-- Opens a table by its header.
def openTable (es : Entries) (path : List String) (key : String) : Option Entries :=
  changeAt false
    (fun _ es =>
      match es.lookup key with
      | none => some (es.set key (.table .headed []))
      | some (.table .passed inner) => some (es.set key (.table .headed inner))
      | some _ => none)
    .headed es path

-- Opens a new table at the end of a list of tables.
def openItem (es : Entries) (path : List String) (key : String) : Option Entries :=
  changeAt false
    (fun _ es =>
      match es.lookup key with
      | none => some (es.set key (.tables [] []))
      | some (.tables closed last) => some (es.set key (.tables (closed ++ [toDatum last]) []))
      | some _ => none)
    .headed es path

-- Changes the table that a header has opened.
def changeOpen (es : Entries) (path : List String) (change : Entries → Option Entries) :
    Option Entries :=
  changeAt false (fun _ => change) .headed es path

end Entries

end MenuOutline.Toml
