import MenuOutline.Proofs.Line.Token
import MenuOutline.Proofs.Page.WellFormed
import MenuOutline.Proofs.Text.Trim

namespace MenuOutline

namespace Markers

variable {read : List Char → Option (List Char)} {p : Char → Prop} {cs l : List Char}

-- The text starts where a token may start, or with a blank, so that it is not the rest of a token.
def IsFresh (cs : List Char) : Prop :=
  cs.head?.all (!isInner ·)

theorem IsFresh.of_isBlank (h : cs.all Text.isBlank) : IsFresh cs := by
  cases cs
  case nil => rfl
  case cons c cs =>
    have hc : Text.isBlank c := List.all_eq_true.mp h c (.head _)
    simp [IsFresh, isInner, hc]

-- A character inside a token is not deleted from the start of a text.
theorem IsFresh.of_erase (ho : Text.Opens read p) (h : IsFresh (Text.erase read cs)) :
    IsFresh cs := by
  cases cs
  case nil => rfl
  case cons c cs =>
    by_cases hc : c = '('
    case pos => rw [hc]; rfl
    case neg => rwa [ho.erase_cons hc] at h

theorem strip_append (h : IsFresh cs) (hs : IsFresh (Text.erase afterStars? cs)) :
    strip (l ++ cs) = strip l ++ strip cs := by
  rw [strip, reads_stars.erase_append_of_apart (.of_head (fun _ => IsStar.isInner) h),
    reads_byHand.erase_append_of_apart (.of_head (fun _ => IsByHand.isInner) hs)]
  rfl

theorem strip_append_of_isBlank (h : (strip cs).all Text.isBlank) :
    strip (l ++ cs) = strip l ++ strip cs := by
  have hs := IsFresh.of_erase opens_byHand (.of_isBlank h)
  exact strip_append (hs.of_erase opens_stars) hs

-- The opener stays where it is, and no marker is found across its ends.
theorem strip_append_seoOpener (l cs : List Char) :
    strip (l ++ (seoOpener ++ cs)) = strip l ++ (seoOpener ++ strip cs) := by
  have hs : Text.Inert afterStars? seoOpener := opens_stars.inert_cons (by decide) (by decide)
  have hb : Text.Inert afterByHand? seoOpener := opens_byHand.inert_cons (by decide) (by decide)
  have hf (rest : List Char) : IsFresh (seoOpener ++ rest) := rfl
  rw [strip_append (hf cs) ((hs cs).erase ▸ hf _), strip.eq_1 (seoOpener ++ cs), (hs cs).erase,
    (hb _).erase]
  rfl

theorem before_append_seoOpener (l cs : List Char) :
    Text.before seoOpener (l ++ (seoOpener ++ cs)) = Text.before seoOpener l := by
  have hi : ∀ m, m = seoOpener → m.tail.all isInner := fun _ hm => hm ▸ by decide
  exact Text.before_append nofun <| .of_head hi rfl

end Markers

namespace Line

-- The text in front of its first opener.
def lead (cs : List Char) : List Char :=
  Text.before Markers.seoOpener cs

-- The text from its first opener on.
def trail (cs : List Char) : List Char :=
  cs.drop (lead cs).length

variable {language : String} {cs : List Char} {l : Line}

theorem trail_spec (cs : List Char) : cs = lead cs ++ trail cs ∧
    (trail cs = [] ∨ ∃ r, trail cs = Markers.seoOpener ++ r) ∧
    Text.Skips (Text.after? Markers.seoOpener) (lead cs) (trail cs) := by
  have ⟨rest, hc, hr, hs⟩ := Text.exists_before Markers.seoOpener cs
  have ht : trail cs = rest := (congrArg (List.drop _) hc).trans List.drop_left
  rw [ht]
  exact ⟨hc, hr, hs nofun⟩

-- What comes behind the first opener does not matter for the slug.
theorem slugOf_lead (language : String) (cs : List Char) :
    slugOf language (lead cs) = slugOf language cs := by
  have ⟨hc, hr, _⟩ := trail_spec cs
  cases hr
  case inl hr =>
    rw [hr, List.append_nil] at hc
    rw [← hc]
  case inr hr =>
    have ⟨r, hr⟩ := hr
    have hs := Markers.strip_append_seoOpener (lead cs) r
    rw [← hr, ← hc] at hs
    rw [slugOf, slugOf, hs, Markers.before_append_seoOpener]

-- There is no annotation where there is no opener.
theorem skips_annotations {l rest : List Char}
    (h : Text.Skips (Text.after? Markers.seoOpener) l rest) :
    Text.Skips Seo.removal.after? l rest := by
  intro start hn hs
  refine Option.eq_none_iff_forall_ne_some.mpr fun r hr => ?_
  obtain ⟨_, ⟨_, _⟩, he⟩ := (Seo.reads_annotations.iff _ _).mp hr
  have ho := h start hn hs
  rw [he, List.append_assoc, List.append_assoc, Text.after?_eq_some_iff.mpr rfl] at ho
  contradiction

theorem strip_lead (cs : List Char) : Seo.strip (lead cs) = lead cs := by
  have ho : Text.Reads (Text.after? Markers.seoOpener) _ := Text.reads_after? nofun
  have ⟨_, _, hs⟩ := trail_spec cs
  have hs := ho.skips_of_not_infix fun _ => ho.not_infix_of_skips hs
  exact (skips_annotations hs).erase_eq_self

theorem slugOf_eq_of_not_occurs
    (h : Text.occurs Markers.seoOpener (Markers.strip (lead cs)) = false) :
    slugOf language cs = Slug.ofText language (.ofList (label (lead cs))) := by
  have hb : Text.before Markers.seoOpener (Markers.strip (lead cs)) = Markers.strip (lead cs) := by
    have hn := Option.isNone_iff_eq_none.mp <| Option.isSome_eq_false_iff.mp h
    rw [Text.before, hn]
    rfl
  rw [← slugOf_lead, slugOf, hb, label, strip_lead]

-- If nothing but blanks is left of the trail then the label is in the lead.
theorem label_lead (h : label (trail cs) = []) : label (lead cs) = label cs := by
  have ⟨hc, _, hs⟩ := trail_spec cs
  have hb : (Markers.strip (Seo.strip (trail cs))).all Text.isBlank :=
    Text.isBlankText_of_trim_eq_nil h
  have he : Seo.strip (lead cs ++ trail cs) = lead cs ++ Seo.strip (trail cs) :=
    (skips_annotations hs).erase
  rw [← hc] at he
  rw [label, label, he, Markers.strip_append_of_isBlank hb, Text.trim_append_blanks _ hb,
    strip_lead]

-- The slug of a line is that of the label in front of its first opener. This is all of the label if
-- nothing but annotations, markers and blanks follows.
theorem read?_slug_eq (h : read? language cs = some l) :
    let text := dropBullet (Text.trim cs)
    l.slug = slugOf language (lead text) ∧
    (Text.occurs Markers.seoOpener (Markers.strip (lead text)) = false →
      l.slug = Slug.ofText language (.ofList (label (lead text)))) ∧
    (Text.occurs Markers.seoOpener (Markers.strip (lead text)) = false → label (trail text) = [] →
      l.slug = Slug.ofText language l.name ∧
      (l.kind.generatesFile → Slug.ofText language l.name ≠ "" →
        (Page.ofLine l).slug = some (Slug.ofText language l.name) ∧
        (Page.ofLine l).file =
          some (Slug.file (Slug.ofText language l.name) (Page.ofLine l).isHome))) := by
  intro text
  have hl : ofLabel language (indentation cs) text = l := by
    unfold read? at h
    split at h
    · contradiction
    · exact Option.some.inj h
  have hs : l.slug = slugOf language text := hl ▸ rfl
  refine ⟨hs.trans (slugOf_lead language text).symm, fun ho => ?_, fun ho ht => ?_⟩
  · exact hs.trans <| slugOf_eq_of_not_occurs ho
  · have hn : l.name = .ofList (label (lead text)) := by
      rw [label_lead ht, ← hl]
      rfl
    have hs : l.slug = Slug.ofText language l.name :=
      hn ▸ hs.trans (slugOf_eq_of_not_occurs ho)
    exact ⟨hs, hs ▸ Page.ofLine_of_generatesFile⟩

-- The annotation stands in front of the marker, and the label ends with a blank.
theorem read?_slug_eq_annotated :
    let l : Line := ⟨1, "Té & sal", "x", "te-y-sal", ⟨false, true, false, true⟩⟩
    read? "es" "  - Té & sal (SEO: x) (**)".toList = some l ∧
      l.slug = Slug.ofText "es" l.name ∧ (Page.ofLine l).slug = some "te-y-sal" ∧
      (Page.ofLine l).file = some "te-y-sal.php" := by
  intro l
  have h : read? "es" "  - Té & sal (SEO: x) (**)".toList = some l := by decide +kernel
  have hs : Slug.ofText "es" l.name = "te-y-sal" := by decide +kernel
  have ⟨_, _, hn⟩ := read?_slug_eq h
  have ⟨hs', hp⟩ := hn (by decide +kernel) (by decide +kernel)
  have ⟨hp, hf⟩ := hp rfl (hs ▸ by decide)
  rw [hs] at hp hf
  exact ⟨h, hs', hp, hf⟩

-- A label may go on behind the annotation.
theorem read?_slug_ne :
    ∃ l, read? "es" "(SEO: Ofertas) Tienda".toList = some l ∧ l.name = "Tienda" ∧ l.slug = "" ∧
      Slug.ofText "es" l.name = "tienda" ∧ l.slug ≠ Slug.ofText "es" l.name :=
  ⟨⟨0, "Tienda", "Ofertas", "", ⟨false, false, false, true⟩⟩, by decide +kernel⟩

end Line

end MenuOutline
