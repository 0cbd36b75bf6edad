import MenuOutline.Datum.Basic
import MenuOutline.Text.Quoted

-- Plain values read from data, and the faults that are reported when a datum is not what was
-- wanted.

namespace MenuOutline.Datum

-- Why a datum is not what was wanted.
inductive Mismatch where
  | wrongType (found : Datum) (wanted : String)
  | negativeSize (n : Int)
  | missingField (name : String)
  | duplicateField (name : String)
  | unknownField (name : String) (known : List String)
  | tooManyItems (length : Nat)
  | tooFewItems (length : Nat) (wanted : String)
deriving DecidableEq, Repr

-- A mismatch at the end of a path of keys.
structure DecodeError where
  path : List String
  mismatch : Mismatch
deriving DecidableEq, Repr

-- The same mismatch, one key further up.
def DecodeError.under (key : String) (e : DecodeError) : DecodeError :=
  { e with path := key :: e.path }

abbrev Decoded (α : Type) := Except DecodeError α

-- How a datum that was found is named.
def describe (numbers : Binary64.Form) : Datum → String
  | .null => "null"
  | .bool b => "boolean `" ++ (if b then "true" else "false") ++ "`"
  | .int n => "integer `" ++ toString n ++ "`"
  | .float x => "floating point `" ++ numbers.write x ++ "`"
  | .text s | .date s => "string " ++ Text.quoted s
  | .list _ => "sequence"
  | .table _ => "map"

def backquoted (s : String) : String :=
  "`" ++ s ++ "`"

def Mismatch.message (numbers : Binary64.Form) : Mismatch → String
  | .wrongType found wanted => "invalid type: " ++ describe numbers found ++ ", expected " ++ wanted
  | .negativeSize n => "invalid value: integer " ++ backquoted (toString n) ++ ", expected usize"
  | .missingField name => "missing field " ++ backquoted name
  | .duplicateField name => "duplicate field " ++ backquoted name
  | .unknownField name known =>
    "unknown field " ++ backquoted name ++ ", expected " ++
      match known with
      | [a] => backquoted a
      | [a, b] => backquoted a ++ " or " ++ backquoted b
      | _ => "one of " ++ ", ".intercalate (known.map backquoted)
  | .tooManyItems length =>
    "invalid length " ++ toString length ++ ", expected fewer elements in array"
  | .tooFewItems length wanted =>
    "invalid length " ++ toString length ++ ", expected " ++ wanted

def mismatch {α : Type} (m : Mismatch) : Decoded α :=
  .error { path := [], mismatch := m }

-- Reads the datum at a key.
def atKey {α : Type} (key : String) (read : Datum → Decoded α) (d : Datum) : Decoded α :=
  (read d).mapError (·.under key)

-- A date is taken for its text.
def readText : Datum → Decoded String
  | .text s | .date s => .ok s
  | d => mismatch (.wrongType d "a string")

def readBool : Datum → Decoded Bool
  | .bool b => .ok b
  | d => mismatch (.wrongType d "a boolean")

-- A size is an integer that is not negative.
def readSize : Datum → Decoded Nat
  | .int n => if n < 0 then mismatch (.negativeSize n) else .ok n.toNat
  | d => mismatch (.wrongType d "usize")

-- What may be absent may also be null.
def readOptional {α : Type} (read : Datum → Decoded α) : Datum → Decoded (Option α)
  | .null => .ok none
  | d => (read d).map some

end MenuOutline.Datum
