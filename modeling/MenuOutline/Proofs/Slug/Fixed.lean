import MenuOutline.Proofs.Slug.Variable
import MenuOutline.Proofs.Text.Decomposition

namespace MenuOutline.Slug

variable {language language' : String} {c : Char} {cs : List Char} {inPart gap : Bool} {s : String}

theorem piece_of_isSlugChar (h : isSlugChar c) : piece language c = .letters [c] := by
  have hs : c ∉ silent := by
    have hn : silent.all (!isSlugChar ·) := by decide
    intro hc
    simpa [h] using List.all_eq_true.mp hn c hc
  simp [piece, hs, isAlphanum_of_isSlugChar h,
    Char.toLower_eq_of_not_isUpper (toNat_lt_of_isSlugChar h).right]

theorem piece_hyphen : piece language '-' = .gap :=
  rfl

-- The rest of a slug is written as it stands. Before a part a hyphen is due, within one none is.
theorem write_true_of_partsValid (h : partsValid inPart cs) :
    write true (!inPart) (cs.map (piece language)) = (if inPart then [] else ['-']) ++ cs := by
  induction cs generalizing inPart
  case nil =>
    have hp : inPart := h
    simp [hp, write]
  case cons c cs hi =>
    by_cases hc : c = '-' <;> simp only [partsValid, hc, if_true, if_false, Bool.and_eq_true] at h
    case pos => simpa [h.left, hc, piece_hyphen, write] using hi h.right
    case neg =>
      have hi := hi h.right
      simp only [Bool.not_true] at hi
      cases inPart <;> simp [piece_of_isSlugChar h.left, write, hi]

theorem write_false_of_partsValid (h : partsValid false cs) :
    write false gap (cs.map (piece language)) = cs := by
  cases cs
  case nil => contradiction
  case cons c cs =>
    have hc : c ≠ '-' := by rintro rfl; contradiction
    simp only [partsValid, if_neg hc, Bool.and_eq_true] at h
    have hw : write true false (cs.map (piece language)) = cs := write_true_of_partsValid h.right
    simp [piece_of_isSlugChar h.left, write, hw]

theorem ofText_eq_self_of_isValid (h : isValid s) : ofText language s = s := by
  have hn : ∀ c ∈ s.toList, c.toNat < 0xC0 := by
    intro c hc
    obtain h | rfl := isSlugChar_or_eq_hyphen h c hc
    · exact (toNat_lt_of_isSlugChar h).left.trans (by decide)
    · decide
  rw [ofText, Text.withoutDiacritics_eq_self hn, write_false_of_partsValid h, String.ofList_toList]

theorem ofText_eq_self_iff : ofText language s = s ↔ s = "" ∨ isValid s := by
  refine ⟨fun h => h ▸ ofText_eq_empty_or_isValid language s, ?_⟩
  rintro (rfl | h)
  · rfl
  · exact ofText_eq_self_of_isValid h

-- Slugs are the texts that are their own slugs, in whatever language they were made.
theorem ofText_fixes_slugs (language : String) :
    (∀ text, ofText language text = "" ∨ isValid (ofText language text)) ∧
    (∀ s, ofText language s = s ↔ s = "" ∨ isValid s) ∧
    ∀ language' text, ofText language' (ofText language text) = ofText language text :=
  ⟨ofText_eq_empty_or_isValid language, fun _ => ofText_eq_self_iff,
    fun _ text => ofText_eq_self_iff.mpr <| ofText_eq_empty_or_isValid language text⟩

end MenuOutline.Slug
