import MenuOutline.Datum.Decode
import MenuOutline.Proofs.Datum.Record

namespace MenuOutline

open Datum

-- A date stands for its text.
def Datum.plain : Datum → Datum
  | .date s => .text s
  | d => d

namespace Settings

-- The kinds of values that settings have.
inductive Kind where
  | text
  | flag
  | size
deriving DecidableEq

namespace Kind

def Admits : Kind → Datum → Prop
  | text, .text _ | text, .date _ | flag, .bool _ => True
  | size, .int n => 0 ≤ n
  | _, _ => False

variable {α : Type} {kind : Kind} {read : Datum → Decoded α} {encode : α → Datum}

-- How values of a kind are read and written. A value that may be absent is written as nothing.
structure Codes (kind : Kind) (read : Datum → Decoded α) (encode : α → Option Datum) : Prop where
  read_iff {d a} : (d ≠ .null) → (read d = .ok a ↔ kind.Admits d ∧ encode a = some d.plain)
  read_of_encode {d a} : (encode a = some d) → read d = .ok a
  exists_encode {d} : kind.Admits d → ∃ a, encode a = some d.plain
  injective : Function.Injective encode

theorem codes_text : text.Codes readText (some <| .text ·) where
  read_iff {d a} _       := by cases d <;> simp [readText, Admits, plain, mismatch, eq_comm]
  read_of_encode h       := by cases h; rfl
  exists_encode {d} h    := by cases d <;> simp_all [Admits, plain]
  injective _ _ h        := by simpa using h

theorem codes_flag : flag.Codes readBool (some <| .bool ·) where
  read_iff {d a} _       := by cases d <;> simp [readBool, Admits, plain, mismatch, eq_comm]
  read_of_encode h       := by cases h; rfl
  exists_encode {d} h    := by cases d <;> simp_all [Admits, plain]
  injective _ _ h        := by simpa using h

theorem readSize_int_iff {n : Int} {a : Nat} : readSize (.int n) = .ok a ↔ n = a := by
  rw [readSize]
  split
  case isTrue hn  => simp [mismatch]; omega
  case isFalse hn => simp; omega

theorem codes_size : size.Codes readSize (some <| .int ·) where
  read_iff {d a} _ := by
    cases d
    case int n => simp only [readSize_int_iff, Admits, plain, Option.some.injEq, int.injEq]; omega
    all_goals simp [readSize, Admits, plain, mismatch]
  read_of_encode h := by cases h; exact readSize_int_iff.mpr rfl
  exists_encode {d} h := by
    cases d
    case int n => exact ⟨n.toNat, congrArg (some <| Datum.int ·) <| Int.toNat_of_nonneg h⟩
    all_goals cases h
  injective _ _ h := by simpa [Int.ofNat_inj] using h

theorem readOptional_of_ne {d : Datum} (h : d ≠ .null) :
    readOptional read d = (read d).map some := by
  cases d
  case null => contradiction
  all_goals rfl

namespace Codes

theorem optional (h : kind.Codes read (some <| encode ·)) (hn : ∀ a, encode a ≠ .null) :
    kind.Codes (readOptional read) (·.map encode) where
  read_iff {d a} hd := by
    rw [readOptional_of_ne hd, map_eq_ok_iff]
    cases a
    case none   => simp
    case some a => simpa using h.read_iff hd
  read_of_encode {d a} he := by
    obtain ⟨a, rfl, rfl⟩ := Option.map_eq_some_iff.mp he
    rw [readOptional_of_ne (hn a), h.read_of_encode rfl]
    rfl
  exists_encode hd :=
    have ⟨a, ha⟩ := h.exists_encode hd
    ⟨some a, ha⟩
  injective := Option.map_injective fun _ _ he => h.injective (congrArg some he)

variable {encode : α → Option Datum} {given : Option Datum} {start a : α}

-- A setting comes to have the value that is given for it, and otherwise keeps that of the base.
theorem comes_iff (h : kind.Codes read encode) (hn : given ≠ some .null) :
    Comes read (given.or (encode start)) start a ↔
      (∀ d, given = some d → kind.Admits d) ∧ encode a = (given.map plain).or (encode start) := by
  cases given
  case some d => simpa [Comes] using h.read_iff (mt (congrArg some) hn)
  case none =>
    have hi : Comes read (encode start) start a ↔ start = a := by
      rw [Comes]
      cases he : encode start
      case none   => simp
      case some d => simp [h.read_of_encode he]
    simpa [h.injective.eq_iff, @eq_comm _ a] using hi

theorem exists_encode_or (h : kind.Codes read encode) (start : α)
    (hd : ∀ d, given = some d → kind.Admits d) :
    ∃ a, encode a = (given.map plain).or (encode start) := by
  cases given
  case none   => exact ⟨start, rfl⟩
  case some d => exact h.exists_encode (hd d rfl)

end Codes

theorem codes_optionalText : text.Codes (readOptional readText) (·.map .text) :=
  codes_text.optional (by simp)

theorem codes_optionalSize : size.Codes (readOptional readSize) (·.map fun n : Nat => .int n) :=
  codes_size.optional (by simp)

end Kind

end Settings

end MenuOutline
