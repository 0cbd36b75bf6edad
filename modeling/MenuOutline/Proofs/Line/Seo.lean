import MenuOutline.Proofs.Line.Token
import MenuOutline.Proofs.Text.Trim

namespace MenuOutline.Seo

open Text (Pattern)

variable {cs before description after : List Char} {c : Pattern.Captured}

-- Blanks that the search leaves out of the group are trimmed off the description as well.
theorem trim_group (h : extraction.first? cs = some c)
    (hs : c.span = Markers.seoOpener ++ description ++ [')']) :
    Text.trim c.group = Text.trim description := by
  have ⟨hf, _, hb⟩ := Pattern.Grouped.matches_of_first? h
  simp only [extraction, Pattern.matches_seq_iff, Pattern.matches_literal_iff,
    Pattern.matches_star_one_iff, Pattern.matches_char_iff] at hf hb
  obtain ⟨_, bs, hf, rfl, hbs⟩ := hf
  rw [Pattern.Captured.span, hf, hb, ← List.append_assoc, List.append_cancel_right_eq,
    List.append_assoc, List.append_cancel_left_eq] at hs
  rw [← hs, Text.trim_blanks_append hbs]

theorem ofChars_eq_trim (h : Text.find? removal.first? cs =
    some (before, Markers.seoOpener ++ description ++ [')'], after)) :
    ofChars cs = Text.trim description := by
  have ⟨⟨_, c⟩, hc, he⟩ := Option.map_eq_some_iff.mp <| (find?_extraction cs).trans h
  have ⟨_, _, hr, _⟩ := Text.find?_eq_some_iff.mp hc
  rw [ofChars, hc]
  exact trim_group hr <| congrArg (·.2.1) he

theorem ofChars_eq_nil (h : Text.find? removal.first? cs = none) : ofChars cs = [] := by
  have hc := Option.map_eq_none_iff.mp <| (find?_extraction cs).trans h
  rw [ofChars, hc]

-- An annotation starts here: another character than a closing parenthesis comes behind the opener,
-- and a closing parenthesis later on.
def Starts (cs : List Char) : Prop :=
  ∃ c rest, cs = Markers.seoOpener ++ c :: rest ∧ c ≠ ')' ∧ ')' ∈ rest

theorem starts_iff : Starts cs ↔ ∃ m rest, IsAnnotation m ∧ cs = m ++ rest := by
  constructor
  case mp =>
    rintro ⟨c, _, rfl, hc, hp⟩
    obtain ⟨d, rest, rfl, hd⟩ := List.eq_append_cons_of_mem hp
    exact ⟨_, rest, .mk (List.cons_ne_nil c d) (by simp [hc.symm, hd]), by simp⟩
  case mpr =>
    rintro ⟨_, rest, ⟨hn, hp⟩, rfl⟩
    obtain ⟨c, d, rfl⟩ := List.exists_cons_of_ne_nil hn
    exact ⟨c, d ++ ')' :: rest, by simp, (List.ne_of_not_mem_cons hp).symm, by simp⟩

theorem first?_removal_eq_none_iff : removal.first? cs = none ↔ ¬Starts cs := by
  rw [starts_iff, Option.eq_none_iff_forall_ne_some, Prod.forall]
  simp only [ne_eq, first?_removal_eq_some_iff, not_exists]

theorem find?_removal_eq_none_iff :
    Text.find? removal.first? cs = none ↔ ¬∃ s, s <:+ cs ∧ Starts s := by
  rw [Text.find?_eq_none_iff opens_removal.nil]
  simp only [Text.Skips, List.append_nil, first?_removal_eq_none_iff]
  refine ⟨fun h ⟨s, hs, ha⟩ => h s ?_ hs ha, fun h s _ hs ha => h ⟨s, hs, ha⟩⟩
  rintro rfl
  have ⟨_, _, he, _⟩ := ha
  contradiction

-- The first place where an annotation starts: what stands in front of it, the description, which
-- goes on to the first closing parenthesis, and what follows.
structure IsFirst (cs before description after : List Char) : Prop where
  text   : cs = before ++ (Markers.seoOpener ++ description ++ [')'] ++ after)
  starts : Starts (Markers.seoOpener ++ description ++ [')'] ++ after)
  closed : ')' ∉ description
  first  : ∀ s, s ≠ [] → s <:+ before →
    ¬Starts (s ++ (Markers.seoOpener ++ description ++ [')'] ++ after))

theorem IsFirst.isAnnotation (h : IsFirst cs before description after) :
    IsAnnotation (Markers.seoOpener ++ description ++ [')']) := by
  refine .mk ?_ h.closed
  rintro rfl
  have ⟨c, _, he, hc, _⟩ := h.starts
  rw [List.append_nil, List.append_assoc, List.append_cancel_left_eq] at he
  exact hc (List.cons.inj he).left.symm

theorem isFirst_iff : IsFirst cs before description after ↔ Text.find? removal.first? cs =
    some (before, Markers.seoOpener ++ description ++ [')'], after) := by
  rw [Text.find?_eq_some_iff]
  simp only [first?_removal_eq_some_iff, Text.Skips, first?_removal_eq_none_iff]
  constructor
  case mp  => exact fun h => ⟨_, h.text, ⟨h.isAnnotation, rfl⟩, h.first⟩
  case mpr =>
    rintro ⟨_, ht, ⟨ha, rfl⟩, hf⟩
    exact ⟨ht, starts_iff.mpr ⟨_, _, ha, rfl⟩, (isAnnotation_iff.mp ha).right, hf⟩

theorem IsFirst.strip_eq (h : IsFirst cs before description after) :
    strip cs = before ++ strip after := by
  have hs : Text.Skips removal.first? before
      (Markers.seoOpener ++ description ++ [')'] ++ after) :=
    fun s hn hs => first?_removal_eq_none_iff.mpr (h.first s hn hs)
  rw [h.text, ← List.append_assoc]
  exact reads_annotations.erase_of_skips h.isAnnotation (hs.map (·.2))

theorem strip_eq_self (h : Text.find? removal.first? cs = none) : strip cs = cs := by
  have hs : Text.Skips removal.first? cs [] := (Text.find?_eq_none_iff opens_removal.nil).mp h
  exact (hs.map (·.2)).erase_eq_self

-- A text has a first annotation or none at all.
theorem isFirst_or_none (cs : List Char) : Text.find? removal.first? cs = none ∨
    ∃ before description after, IsFirst cs before description after := by
  cases hf : Text.find? removal.first? cs
  case none => exact .inl rfl
  case some found =>
    have ⟨_, _, hr, _⟩ := Text.find?_eq_some_iff.mp hf
    have ⟨ha, _⟩ := first?_removal_eq_some_iff.mp hr
    obtain ⟨_, m, _⟩ := found
    obtain ⟨_, _⟩ := ha
    exact .inr ⟨_, _, _, isFirst_iff.mpr hf⟩

-- Reading and deleting agree on where an annotation is: at the first place where one starts, up to
-- the first closing parenthesis. What is read there is the trimmed description, and deleting goes on
-- behind it.
theorem extracted_is_removed (cs : List Char) :
    (Text.find? extraction.first? cs).map (Prod.map id Pattern.Captured.whole) =
      Text.find? removal.first? cs ∧
    (Text.find? removal.first? cs = none ∧ (¬∃ s, s <:+ cs ∧ Starts s) ∧
        ofChars cs = [] ∧ strip cs = cs ∨
      ∃ before description after,
        Text.find? removal.first? cs =
          some (before, Markers.seoOpener ++ description ++ [')'], after) ∧
        IsFirst cs before description after ∧
        ofChars cs = Text.trim description ∧ strip cs = before ++ strip after) := by
  refine ⟨find?_extraction cs, ?_⟩
  cases isFirst_or_none cs
  case inl h =>
    exact .inl ⟨h, find?_removal_eq_none_iff.mp h, ofChars_eq_nil h, strip_eq_self h⟩
  case inr h =>
    have ⟨before, description, after, h⟩ := h
    have hf := isFirst_iff.mp h
    exact .inr ⟨before, description, after, hf, h, ofChars_eq_trim hf, h.strip_eq⟩

-- No annotation starts at the first opener.
example : ofChars "Blog (SEO:) de (SEO:  viajes )".toList = "viajes".toList ∧
    strip "Blog (SEO:) de (SEO:  viajes )".toList = "Blog (SEO:) de ".toList := by
  decide +kernel

theorem ofChars_ne_nil_iff : ofChars cs ≠ [] ↔ ∃ before description after,
    IsFirst cs before description after ∧ Text.isBlankText description = false := by
  have hi {before description after} (h : IsFirst cs before description after) :
      ofChars cs ≠ [] ↔ Text.isBlankText description = false := by
    rw [ofChars_eq_trim (isFirst_iff.mp h), Text.trim_ne_nil_iff]
  refine ⟨fun hn => ?_, fun ⟨_, _, _, h, hb⟩ => (hi h).mpr hb⟩
  obtain h | ⟨_, _, _, h⟩ := isFirst_or_none cs
  · exact absurd (ofChars_eq_nil h) hn
  · exact ⟨_, _, _, h, (hi h).mp hn⟩

-- An opener is not yet an annotation: the description is read from the first place where one starts,
-- and may be blank. What is read is part of it, without blanks at either end.
theorem ofChars_contained (cs : List Char) :
    Text.Trimmed (ofChars cs) ∧
    (ofChars cs ≠ [] ↔ ∃ before description after,
      IsFirst cs before description after ∧ Text.isBlankText description = false) ∧
    (ofChars cs = [] ∨ (Markers.detect cs).hasSeo ∧ ∃ before description after,
      cs = before ++ (Markers.seoOpener ++ description ++ [')'] ++ after) ∧
      ')' ∉ description ∧ ofChars cs <:+: description) := by
  obtain h | ⟨before, description, after, h⟩ := isFirst_or_none cs
  · have hn := ofChars_eq_nil h
    exact ⟨hn ▸ ⟨rfl, rfl⟩, ofChars_ne_nil_iff, .inl hn⟩
  · have hd := ofChars_eq_trim (isFirst_iff.mp h)
    have ho : Text.occurs Markers.seoOpener cs := by
      refine (Text.occurs_iff (by decide)).mpr ⟨before, description ++ [')'] ++ after, ?_⟩
      simp [h.text]
    exact ⟨hd ▸ Text.trimmed_trim description, ofChars_ne_nil_iff,
      .inr ⟨ho, before, description, after, h.text, h.closed, hd ▸ Text.trim_isInfix description⟩⟩

-- A blank annotation is deleted like any other one, but says nothing.
theorem hasSeo_of_blank : (Markers.detect "Blog (SEO: )".toList).hasSeo ∧
    ofChars "Blog (SEO: )".toList = [] := by
  decide +kernel

end MenuOutline.Seo
