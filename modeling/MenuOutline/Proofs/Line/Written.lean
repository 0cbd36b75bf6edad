import MenuOutline.Proofs.Line.Plain
import MenuOutline.Proofs.Line.Seo

namespace MenuOutline

namespace Line

-- A marker on a line.
inductive Mark where
  | single
  | double
  | byHand (spelling : List Char)
deriving DecidableEq, Repr

namespace Mark

def chars : Mark → List Char
  | single          => Markers.singleStar
  | double          => Markers.doubleStar
  | byHand spelling => spelling

def kind : Mark → PageKind
  | single   => .skip
  | double   => .noSeo
  | byHand _ => .automanaged

-- Letters may stand in any case.
def IsSpelled : Mark → Prop
  | byHand spelling => Markers.IsByHand spelling
  | _               => True

end Mark

inductive Indent where
  | tabs
  -- Two spaces for every level, or one more than that.
  | spaces (oneMore : Bool)
deriving DecidableEq, Repr

def Indent.chars (depth : Nat) : Indent → List Char
  | tabs           => .replicate depth '\t'
  | spaces oneMore => .replicate (2 * depth + oneMore.toNat) ' '

-- The parts of which a line is written.
structure Written where
  depth       : Nat
  indent      : Indent
  bullet      : Bool
  label       : List Char
  description : Option (List Char)
  mark        : Option Mark
deriving DecidableEq, Repr

namespace Written

def seoPart (w : Written) : List Char :=
  w.description.elim [] fun d => ' ' :: (Markers.seoOpener ++ (' ' :: d) ++ [')'])

def ending (w : Written) : List Char :=
  w.mark.elim [] fun m => ' ' :: m.chars

def text (w : Written) : List Char :=
  w.label ++ w.seoPart ++ w.ending

def front (w : Written) : List Char :=
  if w.bullet then ['-', ' '] else []

def chars (w : Written) : List Char :=
  w.indent.chars w.depth ++ (w.front ++ w.text)

def kind (w : Written) : PageKind :=
  w.mark.elim .regular Mark.kind

def markers (w : Written) : Markers where
  skipPage    := w.kind = .skip
  noSeo       := w.kind = .noSeo
  automanaged := w.kind = .automanaged
  hasSeo      := w.description.isSome

-- Each part can be told from the others. Behind a bullet a label may look like a comment or another
-- bullet.
structure WellFormed (w : Written) : Prop where
  ne_nil      : w.label ≠ []
  trimmed     : Text.Trimmed w.label
  parenthesis : '(' ∉ w.label
  description : ∀ d ∈ w.description, d ≠ [] ∧ Text.Trimmed d ∧ '(' ∉ d ∧ ')' ∉ d
  mark        : ∀ m ∈ w.mark, m.IsSpelled
  start       : w.bullet = false → w.label ≠ ['-'] ∧ w.label.head? ≠ some '#' ∧
    (w.label.head? = some '-' → w.label.tail.head?.all (!Text.isBlank ·))

end Written

variable {α : Type} {read : List Char → Option α} {p : Char → Prop} {m : Mark} {w : Written}

theorem Mark.IsSpelled.exists_body (h : m.IsSpelled) : ∃ c body, m.chars = '(' :: c :: body ∧
    (c :: body).all Markers.isInner ∧ (c = '*' ∨ Text.foldCase c = 'a') := by
  cases m
  case single => exact ⟨'*', [')'], rfl, by decide, .inl rfl⟩
  case double => exact ⟨'*', ['*', ')'], rfl, by decide, .inl rfl⟩
  case byHand =>
    have ⟨c, body, hs, hi, hc⟩ := Markers.IsByHand.exists_body h
    exact ⟨c, body, hs, hi, .inr hc⟩

theorem Mark.IsSpelled.getLast? (h : m.IsSpelled) : m.chars.getLast?.all (!Text.isBlank ·) := by
  have ⟨c, body, hs, hi, _⟩ := h.exists_body
  have hl := List.getLast?_eq_some_getLast (List.cons_ne_nil c body)
  have hn := List.all_eq_true.mp hi _ (List.mem_of_getLast? hl)
  rw [Markers.isInner, Bool.and_eq_true] at hn
  rw [hs, List.getLast?_cons_cons, hl]
  exact hn.right

theorem Indent.isBlank_chars (depth : Nat) (indent : Indent) :
    (indent.chars depth).all Text.isBlank := by
  cases indent <;> simp [Indent.chars, Text.isBlank]

theorem Indent.indentation_append {cs : List Char} (depth : Nat) (indent : Indent)
    (h : cs.head?.all (!Text.isBlank ·)) : indentation (indent.chars depth ++ cs) = depth := by
  cases indent
  case tabs           => exact indentation_tabs depth h
  case spaces oneMore =>
    have := oneMore.toNat_le
    rw [Indent.chars, indentation_spaces _ h]
    omega

namespace Written.WellFormed

theorem inert_label (h : w.WellFormed) (ho : Text.Opens read p) : Text.Inert read w.label :=
  ho.inert h.parenthesis

theorem inert_seoPart (h : w.WellFormed) (ho : Text.Opens read p) (hS : ¬p 'S') :
    Text.Inert read w.seoPart := by
  rw [seoPart]
  cases hd : w.description
  case none   => exact ho.inert List.not_mem_nil
  case some d =>
    have ⟨_, _, hp, _⟩ := h.description d hd
    have hb : Text.Inert read [' '] := ho.inert (by decide)
    exact hb.append <| ho.inert_cons hS <| by simp [hp]

theorem inert_ending (h : w.WellFormed) (ho : Text.Opens read p)
    (hn : ∀ c, c = '*' ∨ Text.foldCase c = 'a' → ¬p c) : Text.Inert read w.ending := by
  rw [ending]
  cases hm : w.mark
  case none   => exact ho.inert List.not_mem_nil
  case some m =>
    have ⟨c, body, hc, hi, hs⟩ := (h.mark m hm).exists_body
    have hb : Text.Inert read [' '] := ho.inert (by decide)
    have hm : Text.Inert read m.chars :=
      hc ▸ ho.inert_cons (hn c hs) (Markers.notMem_parenthesis hi)
    exact hb.append hm

theorem strip_ending (h : w.WellFormed) :
    Markers.strip w.ending = w.mark.elim [] fun _ => [' '] := by
  rw [Markers.strip, ending]
  have hs : Text.Inert Markers.afterStars? [' '] := Markers.opens_stars.inert (by decide)
  have hb : Text.Inert Markers.afterByHand? [' '] := Markers.opens_byHand.inert (by decide)
  cases hm : w.mark
  case none   => simp only [Option.elim_none, Text.erase_nil]
  case some m =>
    cases m
    case single =>
      exact (congrArg _ (Markers.reads_stars.erase_at_end hs .single)).trans hb.erase_eq_self
    case double =>
      exact (congrArg _ (Markers.reads_stars.erase_at_end hs .double)).trans hb.erase_eq_self
    case byHand spelling =>
      have hc : Markers.IsByHand spelling := h.mark _ hm
      have hi := hs.append <| hc.inert Markers.opens_stars
      exact (congrArg _ hi.erase_eq_self).trans <| Markers.reads_byHand.erase_at_end hb hc

-- No marker is found in front of the ending.
theorem strip_append (h : w.WellFormed) {front : List Char}
    (hs : Text.Inert Markers.afterStars? front) (hb : Text.Inert Markers.afterByHand? front) :
    Markers.strip (front ++ w.ending) = front ++ w.mark.elim [] fun _ => [' '] := by
  rw [Markers.strip, (hs _).erase, (hb _).erase, ← h.strip_ending]
  rfl

-- What may come between two parts does not count as part of either.
theorem trim_label_append (h : w.WellFormed) {bs : List Char} (hb : bs.all Text.isBlank) :
    Text.trim (w.label ++ bs) = w.label := by
  rw [Text.trim_append_blanks _ hb, Text.trim_eq_self h.trimmed]

theorem notMem_parenthesis_gap {β : Type} (part : Option β) :
    '(' ∉ part.elim [] fun _ => [' '] := by
  cases part <;> simp

theorem all_isBlank_gap {β : Type} (part : Option β) :
    (part.elim [] fun _ => [' ']).all Text.isBlank := by
  cases part <;> rfl

theorem not_seo_of_mark {c : Char} (h : c = '*' ∨ Text.foldCase c = 'a') : c ≠ 'S' := by
  rintro rfl
  exact absurd h (by decide)

theorem strip_seoPart (h : w.WellFormed) :
    Seo.strip w.text = w.label ++ (w.description.elim [] fun _ => [' ']) ++ w.ending := by
  have ho : Text.Opens Seo.removal.after? _ := Seo.opens_removal.map (·.2)
  have he := (h.inert_ending ho fun _ => not_seo_of_mark).erase_eq_self
  rw [Seo.strip, text, seoPart, List.append_assoc, (h.inert_label ho _).erase, List.append_assoc]
  refine congrArg _ ?_
  cases hd : w.description
  case none   => exact he
  case some d =>
    have ⟨hn, _, _, hp⟩ := h.description d hd
    have ha : Seo.IsAnnotation (Markers.seoOpener ++ (' ' :: d) ++ [')']) :=
      .mk nofun (by simp [hp])
    have hb : Text.Inert Seo.removal.after? [' '] := ho.inert (by decide)
    have hs := Seo.reads_annotations.erase_of_skips ha (hb (_ ++ w.ending))
    rw [he] at hs
    exact hs

theorem label_text (h : w.WellFormed) : Line.label w.text = w.label := by
  have hg : '(' ∉ w.label ++ w.description.elim [] fun _ => [' '] := by
    simp [h.parenthesis, notMem_parenthesis_gap]
  rw [Line.label, h.strip_seoPart, h.strip_append (Markers.opens_stars.inert hg)
    (Markers.opens_byHand.inert hg), List.append_assoc]
  exact h.trim_label_append <| by rw [List.all_append, all_isBlank_gap, all_isBlank_gap]; rfl

theorem slugOf_text (h : w.WellFormed) (language : String) :
    slugOf language w.text = Slug.ofText language (.ofList w.label) := by
  have hb : Text.before Markers.seoOpener (Markers.strip w.text) =
      w.label ++ if w.description.isSome then [' '] else w.mark.elim [] fun _ => [' '] := by
    rw [text, h.strip_append ((h.inert_label Markers.opens_stars).append <|
      h.inert_seoPart Markers.opens_stars (by decide))
      ((h.inert_label Markers.opens_byHand).append <|
        h.inert_seoPart Markers.opens_byHand (by decide)), List.append_assoc,
      (h.inert_label Markers.opens_seoOpener _).before]
    refine congrArg _ ?_
    rw [seoPart]
    cases w.description
    case none =>
      exact Markers.opens_seoOpener.before_eq_self <|
        Markers.opens_seoOpener.inert <| notMem_parenthesis_gap w.mark
    case some d =>
      have hi : Text.Inert (Text.after? Markers.seoOpener) [' '] :=
        Markers.opens_seoOpener.inert (by decide)
      have hs := hi (Markers.seoOpener ++ ((' ' :: d) ++ [')'] ++ w.mark.elim [] fun _ => [' ']))
      exact hs.before_eq
  rw [slugOf, hb, h.trim_label_append]
  split
  · rfl
  · exact all_isBlank_gap w.mark

theorem ofChars_text (h : w.WellFormed) : Seo.ofChars w.text = w.description.getD [] := by
  have ho := Seo.opens_removal
  have he := h.inert_ending ho fun _ => not_seo_of_mark
  cases hd : w.description
  case none =>
    have ht : w.text = w.label ++ [] ++ w.ending := by rw [text, seoPart, hd]; rfl
    have hi := ((h.inert_label ho).append (ho.inert List.not_mem_nil)).append he
    rw [ht, Seo.ofChars_eq_nil (ho.find?_eq_none hi)]
    rfl
  case some d =>
    have ⟨_, ht, _, hp⟩ := h.description d hd
    have ha : Seo.IsAnnotation (Markers.seoOpener ++ (' ' :: d) ++ [')']) :=
      .mk nofun (by simp [hp])
    have hl : Text.Inert Seo.removal.first? (w.label ++ [' ']) :=
      (h.inert_label ho).append (ho.inert (by decide))
    have hw : w.text = w.label ++ [' '] ++
        (Markers.seoOpener ++ (' ' :: d) ++ [')'] ++ w.ending) := by
      simp [text, seoPart, hd]
    have hf := Text.find?_eq_some_iff.mpr
      ⟨_, hw, Seo.first?_removal_eq_some_iff.mpr ⟨ha, rfl⟩, hl _⟩
    have hb : [' '].all Text.isBlank := rfl
    rw [Seo.ofChars_eq_trim hf]
    exact Text.trim_append hb ht

-- Stars are found on an ending exactly if they are its marker.
theorem find?_ending_of_byHand (h : w.WellFormed) {spelling : List Char}
    (hm : w.mark = some (.byHand spelling)) (ho : Text.Opens read (· = '*')) :
    Text.find? read w.ending = none := by
  have hc : Markers.IsByHand spelling := h.mark _ hm
  have hb : Text.Inert read [' '] := ho.inert (by decide)
  rw [ending, hm]
  exact ho.find?_eq_none <| hb.append <| hc.inert ho

theorem isSome_find?_loneStar_ending (h : w.WellFormed) :
    (Text.find? Markers.loneStar? w.ending).isSome = decide (w.kind = .skip) := by
  match hm : w.mark with
  | none | some .single | some .double => simp only [ending, kind, hm]; rfl
  | some (.byHand spelling) =>
    rw [h.find?_ending_of_byHand hm Markers.opens_loneStar, kind, hm]
    rfl

theorem isSome_find?_doubleStar_ending (h : w.WellFormed) :
    (Text.find? (Text.after? Markers.doubleStar) w.ending).isSome = decide (w.kind = .noSeo) := by
  match hm : w.mark with
  | none | some .single | some .double => simp only [ending, kind, hm]; rfl
  | some (.byHand spelling) =>
    rw [h.find?_ending_of_byHand hm Markers.opens_doubleStar, kind, hm]
    rfl

theorem isSome_find?_byHand_ending (h : w.WellFormed) :
    (Text.find? Markers.afterByHand? w.ending).isSome = decide (w.kind = .automanaged) := by
  match hm : w.mark with
  | none | some .single | some .double => simp only [ending, kind, hm]; rfl
  | some (.byHand spelling) =>
    have hc : Markers.IsByHand spelling := h.mark _ hm
    have hb : Text.Inert Markers.afterByHand? [' '] := Markers.opens_byHand.inert (by decide)
    have hr : Markers.afterByHand? (spelling ++ []) = some [] := Markers.reads_byHand.read_append hc
    have hf := (hb (spelling ++ [])).find?
    rw [Text.find?_of_read hr, List.append_nil] at hf
    simp only [ending, kind, hm, Option.elim_some, Mark.chars, Mark.kind]
    exact congrArg Option.isSome hf

theorem isSome_find?_seoOpener_text (h : w.WellFormed) :
    (Text.find? (Text.after? Markers.seoOpener) w.text).isSome = w.description.isSome := by
  have ho := Markers.opens_seoOpener
  have he := h.inert_ending ho fun _ => not_seo_of_mark
  have hl := h.inert_label ho
  rw [text, List.append_assoc, hl.isSome_find?, seoPart]
  cases w.description
  case none   => exact congrArg Option.isSome <| ho.find?_eq_none he
  case some d =>
    have hb : Text.Inert (Text.after? Markers.seoOpener) [' '] := ho.inert (by decide)
    have hf := hb.isSome_find? (Markers.seoOpener ++ ((' ' :: d) ++ [')'] ++ w.ending))
    rw [Text.find?_of_read (Text.after?_eq_some_iff.mpr rfl)] at hf
    exact hf

theorem detect_text (h : w.WellFormed) : Markers.detect w.text = w.markers := by
  have front {α : Type} {read : List Char → Option α} {p : Char → Prop} (ho : Text.Opens read p)
      (hS : ¬p 'S') : (Text.find? read w.text).isSome = (Text.find? read w.ending).isSome :=
    ((h.inert_label ho).append (h.inert_seoPart ho hS)).isSome_find? _
  rw [Markers.detect, markers, Text.occurs, Text.occurs, front Markers.opens_loneStar (by decide),
    front Markers.opens_doubleStar (by decide), front Markers.opens_byHand (by decide),
    h.isSome_find?_loneStar_ending, h.isSome_find?_doubleStar_ending, h.isSome_find?_byHand_ending,
    h.isSome_find?_seoOpener_text]

theorem head?_text (h : w.WellFormed) : w.text.head? = w.label.head? := by
  rw [text, List.append_assoc, List.head?_append_of_ne_nil _ h.ne_nil]

theorem trimmed_text (h : w.WellFormed) : Text.Trimmed w.text where
  head := by
    rw [h.head?_text]
    exact h.trimmed.head
  last := by
    refine Text.all_getLast?_append (Text.all_getLast?_append h.trimmed.last ?_) ?_
    · rw [seoPart]
      cases w.description
      case none   => rfl
      case some d =>
        rw [Option.elim_some, ← List.cons_append, List.getLast?_concat]
        rfl
    · rw [ending]
      cases hm : w.mark
      case none   => rfl
      case some m =>
        have ⟨c, body, hc, _⟩ := (h.mark m hm).exists_body
        have hl := (h.mark m hm).getLast?
        rw [Option.elim_some, hc]
        rwa [hc] at hl

theorem trimmed_front_text (h : w.WellFormed) : Text.Trimmed (w.front ++ w.text) := by
  have hn : w.text ≠ [] := by simp [text, h.ne_nil]
  refine ⟨?_, ?_⟩
  · rw [front]
    split
    · rfl
    · exact h.trimmed_text.head
  · rw [List.getLast?_append_of_ne_nil _ hn]
    exact h.trimmed_text.last

theorem head?_front_text (h : w.WellFormed) : (w.front ++ w.text).head? ≠ some '#' := by
  rw [front]
  cases hb : w.bullet
  case true  => simp
  case false =>
    have ⟨_, hs, _⟩ := h.start hb
    simpa [h.head?_text] using hs

theorem dropBullet_front_text (h : w.WellFormed) : dropBullet (w.front ++ w.text) = w.text := by
  rw [front]
  cases hb : w.bullet
  case true  => exact Text.dropWhile_isBlank_eq_self h.trimmed_text.head
  case false =>
    have ⟨hn, _, hc⟩ := h.start hb
    refine dropBullet_eq_self fun hh => ?_
    have hh : w.label.head? = some '-' := h.head?_text ▸ hh
    have ⟨rest, hl⟩ := List.head?_eq_some_iff.mp hh
    have hr : rest ≠ [] := fun hr => hn (hr ▸ hl)
    have ht : w.text.tail.head? = w.label.tail.head? := by
      rw [text, List.append_assoc, hl]
      exact List.head?_append_of_ne_nil rest hr
    exact ht ▸ hc hh

theorem trim_chars (h : w.WellFormed) : Text.trim w.chars = w.front ++ w.text :=
  Text.trim_append (w.indent.isBlank_chars w.depth) h.trimmed_front_text

theorem isIdle_chars (h : w.WellFormed) : isIdle w.chars = false := by
  have hh := h.head?_front_text
  rw [isIdle, h.trim_chars]
  split
  case h_1 hn =>
    have ht := (List.append_eq_nil_iff.mp hn).right
    simp [text, h.ne_nil] at ht
  case h_2 c cs hc => simpa [hc] using hh

end Written.WellFormed

-- A line is read back as it was written.
theorem read?_written (w : Written) (h : w.WellFormed) (language : String) :
    ∃ l, read? language w.chars = some l ∧ l.level = w.depth ∧ l.name = .ofList w.label ∧
      l.seo = .ofList (w.description.getD []) ∧
      l.slug = Slug.ofText language (.ofList w.label) ∧ l.markers = w.markers ∧
      l.kind = w.kind := by
  have hr : read? language w.chars = some (ofLabel language w.depth w.text) := by
    rw [read?, h.isIdle_chars, h.trim_chars, h.dropBullet_front_text, Written.chars,
      w.indent.indentation_append w.depth h.trimmed_front_text.head]
    rfl
  have hm : (ofLabel language w.depth w.text).markers = w.markers := h.detect_text
  refine ⟨_, hr, rfl, ?_, ?_, h.slugOf_text language, hm, ?_⟩
  · exact congrArg String.ofList h.label_text
  · exact congrArg String.ofList h.ofChars_text
  · rw [kind, hm, Written.markers, Markers.kind]
    cases w.kind <;> rfl

-- A label that would be a comment without the bullet, one space too many, and a marker with a
-- letter that is an s in another shape.
theorem read?_written_bulleted :
    let w : Written := ⟨2, .spaces true, true, "# Té) SEO:".toList, some "Té *verde*".toList,
      some (.byHand "(AutoGeſtionable)".toList)⟩
    w.chars = "     - # Té) SEO: (SEO: Té *verde*) (AutoGeſtionable)".toList ∧ w.WellFormed ∧
      ∃ l, read? "es" w.chars = some l ∧ l.level = 2 ∧ l.name = .ofList w.label ∧
        l.seo = .ofList (w.description.getD []) ∧
        l.slug = Slug.ofText "es" (.ofList w.label) ∧ l.markers = w.markers ∧
        l.kind = .automanaged := by
  intro w
  have h : w.WellFormed :=
    { ne_nil      := by decide
      trimmed     := by decide
      parenthesis := by decide
      description := by decide
      mark        := fun m hm => Option.some.inj hm ▸ (by decide : Markers.IsByHand _)
      start       := nofun }
  exact ⟨by decide, h, read?_written w h "es"⟩

end Line

end MenuOutline
