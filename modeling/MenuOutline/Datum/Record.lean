import MenuOutline.Datum.Decode
import MenuOutline.Outline

-- Records read from data. A record is a table of its fields, each of them once, or a list of them
-- in order. The keys of a table are met in ascending order, and the first fault met is the one
-- reported; what is missing is missed only after that.

namespace MenuOutline.Datum

-- One field of a record: how its datum changes the record read so far.
structure Field (ρ : Type) where
  name : String
  store : ρ → Datum → Decoded ρ

-- A field whose datum is read by itself.
def field {ρ α : Type} (name : String) (read : Datum → Decoded α) (set : ρ → α → ρ) : Field ρ where
  name
  store r d := (read d).map (set r)

-- A kind of record. The first fields are required in a list; the others keep their value of `start`
-- when they are missing.
structure Record (ρ : Type) where
  name : String
  fields : List (Field ρ)
  required : Nat
  start : ρ
  -- Whether keys of no field are refused.
  strict : Bool

namespace Record

variable {ρ : Type}

-- Stores the members of a table in their order.
def storeMembers (fields : List (Field ρ)) (strict : Bool) (r : ρ) :
    List (String × Datum) → Decoded ρ
  | [] => .ok r
  | (key, d) :: ms =>
    match fields.find? (·.name == key) with
    | some f => do storeMembers fields strict (← atKey key (f.store r) d) ms
    | none =>
      if strict then mismatch (.unknownField key (fields.map (·.name)))
      else storeMembers fields strict r ms

-- Stores the items of a list in the fields, as far as there are items.
def storeItems (r : ρ) : List (Field ρ) → List Datum → Decoded ρ
  | f :: fields, d :: ds => do storeItems (← f.store r d) fields ds
  | _, _ => .ok r

-- A list may not be shorter than the required fields nor longer than all.
def checkLength (name : String) (fields required items : Nat) : Decoded Unit :=
  if items < required then
    mismatch (.tooFewItems items ("struct " ++ name ++ " with " ++ toString fields ++ " elements"))
  else if fields < items then mismatch (.tooManyItems items)
  else .ok ()

def read (record : Record ρ) : Datum → Decoded ρ
  | .table ms => storeMembers record.fields record.strict record.start ms
  | .list ds => do
    let r ← storeItems record.start record.fields ds
    checkLength record.name record.fields.length record.required ds.length
    return r
  | d => mismatch (.wrongType d ("struct " ++ record.name))

end Record

-- The value of a required field.
def require {α : Type} (name : String) : Option α → Decoded α
  | some a => .ok a
  | none => mismatch (.missingField name)

-- The value of the member of a name, which a table may have once.
def readOnce {α : Type} (name : String) (read : Datum → Decoded α)
    (ms : List (String × Datum)) : Decoded (Option α) :=
  match ms.filter (·.1 == name) with
  | [] => .ok none
  | [(_, d)] => (atKey name read d).map some
  | (_, d) :: _ => do
    let _ ← atKey name read d
    mismatch (.duplicateField name)

def readItems {α : Type} (read : Datum → Decoded α) : Datum → Decoded (List α)
  | .list ds => ds.mapM read
  | d => mismatch (.wrongType d "a sequence")

-- A field of a record that holds records of the same kind below it.
inductive Slot (ρ : Type) where
  | own (f : Field ρ)
  | below (name : String)

def Slot.name {ρ : Type} : Slot ρ → String
  | own f => f.name
  | below name => name

-- A kind of record that nests: `finish` makes an entry of an outline from what was stored.
structure Nest (ρ α : Type) where
  name : String
  slots : List (Slot ρ)
  required : Nat
  start : ρ
  finish : ρ → Decoded α

namespace Nest

variable {ρ α : Type}

mutual

def readOutline (nest : Nest ρ α) : Datum → Decoded (Outline α)
  | .list ds => readNodes nest ds
  | d => mismatch (.wrongType d "a sequence")

def readNodes (nest : Nest ρ α) : List Datum → Decoded (Outline α)
  | [] => .ok .nil
  | d :: ds => do
    let (a, below) ← readNode nest d
    return .cons a below (← readNodes nest ds)

def readNode (nest : Nest ρ α) : Datum → Decoded (α × Outline α)
  | .table ms => do
    let (r, below) ← storeMembers nest nest.start .nil ms
    return (← nest.finish r, below)
  | .list ds => do
    let (r, below) ← storeItems nest nest.start .nil nest.slots ds
    Record.checkLength nest.name nest.slots.length nest.required ds.length
    return (← nest.finish r, below)
  | d => mismatch (.wrongType d ("struct " ++ nest.name))

def storeMembers (nest : Nest ρ α) (r : ρ) (below : Outline α) :
    List (String × Datum) → Decoded (ρ × Outline α)
  | [] => .ok (r, below)
  | (key, d) :: ms =>
    match nest.slots.find? (·.name == key) with
    | some (.own f) => do storeMembers nest (← atKey key (f.store r) d) below ms
    | some (.below _) => do
      storeMembers nest r (← (readOutline nest d).mapError (·.under key)) ms
    | none => storeMembers nest r below ms

def storeItems (nest : Nest ρ α) (r : ρ) (below : Outline α) :
    List (Slot ρ) → List Datum → Decoded (ρ × Outline α)
  | .own f :: slots, d :: ds => do storeItems nest (← f.store r d) below slots ds
  | .below _ :: slots, d :: ds => do storeItems nest r (← readOutline nest d) slots ds
  | _, _ => .ok (r, below)

end

end Nest

end MenuOutline.Datum
