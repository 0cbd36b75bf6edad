import MenuOutline.Text.Quoted
import Mathlib.Data.List.Basic

namespace MenuOutline.Text

-- A character that shows as it is between double quotes.
def Quoted.isVerbatim (c : Char) : Bool :=
  c ≠ '"' ∧ c ≠ '\\' ∧ 0x20 ≤ c.toNat ∧ c.toNat < 0x7F

theorem Quoted.encodeChar_of_isVerbatim {c : Char} (h : isVerbatim c) : encodeChar c = [c] := by
  have ⟨hq, hb, hl, hu⟩ := of_decide_eq_true h
  unfold encodeChar
  split
  case h_7 => simp [needsCode, Nat.not_lt.mpr hl, Nat.not_le.mpr hu]
  all_goals contradiction

theorem quoted_of_isVerbatim {s : String} (h : s.toList.all Quoted.isVerbatim) :
    quoted s = "\"" ++ s ++ "\"" := by
  have he : s.toList.flatMap Quoted.encodeChar = s.toList.flatMap ([·]) :=
    List.flatMap_congr fun c hc => Quoted.encodeChar_of_isVerbatim <| List.all_eq_true.mp h c hc
  rw [List.flatMap_singleton'] at he
  simp [quoted, Quoted.encode, he, ← String.toList_inj]

theorem Quoted.isVerbatim_of_isDigit {c : Char} (h : c.isDigit) : isVerbatim c := by
  obtain ⟨hl, hu⟩ : 48 ≤ c.toNat ∧ c.toNat ≤ 57 := Char.isDigit_iff_toNat.mp h
  refine decide_eq_true ⟨?quote, ?backslash, by omega, by omega⟩
  case quote =>
    rintro rfl
    exact absurd hl <| by decide
  case backslash =>
    rintro rfl
    exact absurd hu <| by decide

theorem Quoted.all_isVerbatim_toString (n : Nat) : (toString n).toList.all isVerbatim := by
  rw [Nat.toString_eq_ofList_toDigits, String.toList_ofList, List.all_eq_true]
  exact fun _ hc =>
    isVerbatim_of_isDigit <| Nat.isDigit_of_mem_toDigits (by decide) (by decide) hc

end MenuOutline.Text
