import MenuOutline.Proofs.Slug.Ampersand
import MenuOutline.Proofs.Slug.Parts
import MenuOutline.Proofs.Text.Decomposition

-- What is heard of each character alone. A slug is written from that, whatever the order of marks.

namespace MenuOutline.Slug

open Text

variable {language : String} {c : Char} {cs : List Char} {p q : Piece}
  {ps qs : List Piece}

-- Marks are silent.
def heard (language : String) (c : Char) : Piece :=
  if isDiacritic c then .nothing else piece language c

-- What is heard of a character and its parts.
def sounds (language : String) (c : Char) : List Piece :=
  ((Decomposition.parts c).map (heard language)).filter (· ≠ .nothing)

theorem write_cons_congr (h : ∀ started gap, write started gap ps = write started gap qs)
    (started gap : Bool) : write started gap (p :: ps) = write started gap (p :: qs) := by
  cases p <;> simp [write, h]

theorem write_filter_nothing (started gap : Bool) (ps : List Piece) :
    write started gap (ps.filter (· ≠ .nothing)) = write started gap ps := by
  induction ps generalizing started gap
  case nil => rfl
  case cons p ps hi =>
    by_cases hp : p = .nothing
    case pos =>
      rw [hp]
      exact hi started gap
    case neg =>
      rw [List.filter_cons_of_pos (by simpa using hp)]
      exact write_cons_congr hi started gap

theorem write_swap_mute (hp : p.isMute) (hq : q.isMute) (started gap : Bool) :
    write started gap (p :: q :: ps) = write started gap (q :: p :: ps) := by
  cases p <;> cases q <;> first | rfl | contradiction

theorem lt_of_spelling? (h : spelling? c = some cs) : c.toNat < 0x250 := by
  unfold spelling? at h
  split at h <;> first | contradiction | decide

-- No letter from elsewhere has an ASCII form.
theorem piece_of_le (h : 0x250 ≤ c.toNat) : piece language c =
    if isAlphanumeric c then .nothing else .gap := by
  have hs : c ∉ silent := fun hs => by
    have ha : silent.all (·.toNat < 0x250) := by decide
    exact absurd (of_decide_eq_true <| List.all_eq_true.mp ha c hs) (Nat.not_lt.mpr h)
  have hl : ¬c.isAlphanum := fun ha => absurd (toNat_of_isAlphanum ha).right (by omega)
  have hn : spelling? c = none := Option.eq_none_iff_forall_ne_some.mpr fun cs hc =>
    absurd (lt_of_spelling? hc) (Nat.not_lt.mpr h)
  have he : c ≠ '&' := by
    rintro rfl
    contradiction
  simp [piece, hs, hl, hn, he]

-- A mark writes nothing, so that it may change places with another one.
theorem isMute_heard_of_class_pos (h : 0 < Decomposition.combiningClass c) :
    (heard language c).isMute := by
  have hc : ¬c.toNat < 0x300 := fun hc => by simp [Decomposition.combiningClass, hc] at h
  rw [heard, piece_of_le (by omega)]
  split
  case isTrue => rfl
  case isFalse => split <;> rfl

theorem write_insert (c : Char) (cs : List Char) (started gap : Bool) :
    write started gap ((Decomposition.insert c cs).map (heard language)) =
      write started gap ((c :: cs).map (heard language)) := by
  fun_induction Decomposition.insert c cs generalizing started gap
  case case1 => rfl
  case case2 d ds h hi =>
    have hc : (heard language c).isMute := isMute_heard_of_class_pos (h.left.trans h.right)
    have hd : (heard language d).isMute := isMute_heard_of_class_pos h.left
    calc write started gap (heard language d :: (Decomposition.insert c ds).map (heard language))
      _ = write started gap (heard language d :: (c :: ds).map (heard language)) :=
        write_cons_congr hi started gap
      _ = write started gap ((c :: d :: ds).map (heard language)) :=
        write_swap_mute hd hc started gap
  case case3 => rfl

theorem write_order (cs : List Char) (started gap : Bool) :
    write started gap ((Decomposition.order cs).map (heard language)) =
      write started gap (cs.map (heard language)) := by
  induction cs generalizing started gap
  case nil          => rfl
  case cons c cs hi => exact (write_insert c _ started gap).trans (write_cons_congr hi started gap)

theorem filter_heard (cs : List Char) :
    ((cs.filter (!isDiacritic ·)).map (piece language)).filter (· ≠ .nothing) =
      (cs.map (heard language)).filter (· ≠ .nothing) := by
  induction cs
  case nil => rfl
  case cons c cs hi => cases hc : isDiacritic c <;> simp_all [heard, List.filter_cons]

theorem ofText_eq_write_sounds (language text : String) :
    ofText language text = .ofList (write false false (text.toList.flatMap (sounds language))) := by
  have hs : text.toList.flatMap (sounds language) =
      ((text.toList.flatMap Decomposition.parts).map (heard language)).filter (· ≠ .nothing) := by
    rw [List.map_flatMap, List.filter_flatMap]
    rfl
  rw [hs, write_filter_nothing, ← write_order, ← write_filter_nothing, ← filter_heard,
    write_filter_nothing]
  rfl

end MenuOutline.Slug
