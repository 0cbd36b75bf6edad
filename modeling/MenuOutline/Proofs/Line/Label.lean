import MenuOutline.Line
import MenuOutline.Proofs.Line.Token
import MenuOutline.Proofs.Text.Trim

namespace MenuOutline

namespace Text

variable {read : List Char → Option (List Char)} {token found : List Char → Prop}
  {l cs a m : List Char}

-- In front of a token no other token has begun that anything could complete.
def Parted (token : List Char → Prop) (cs : List Char) : Prop :=
  ∀ a m b, cs = a ++ (m ++ b) → token m → ∀ rest, Apart token a rest

namespace Parted

theorem left (h : Parted token (l ++ cs)) : Parted token l :=
  fun a m b he => h a m (b ++ cs) (by simp [he])

theorem right (h : Parted token (l ++ cs)) : Parted token cs :=
  fun a m b he hm rest =>
    (h (l ++ a) m b (by simp [he]) hm rest).of_suffix (List.suffix_append l a)

theorem append (hl : Parted token l) (hc : Parted token cs) (ha : ∀ rest, Apart token l rest) :
    Parted token (l ++ cs) := by
  intro a m b he hm rest
  cases (ha cs).eq_append hm he
  case inl he =>
    have ⟨b', he⟩ := he
    exact hl a m b' he hm rest
  case inr he =>
    have ⟨a', ha', he⟩ := he
    exact ha' ▸ (ha _).append (hc a' m b he hm rest)

variable (h : Reads read found) (ht : ∀ m, found m → token m)
include h ht

theorem erase (hp : Parted token cs) : Parted token (erase read cs) := by
  induction cs using h.induction
  case clean cs hn => rwa [h.erase_eq_self hn]
  case token a m rest hm hs hi =>
    rw [h.erase_of_skips hm hs]
    exact hp.left.left.append (hi hp.right) <| hp a m rest (List.append_assoc a m rest) (ht m hm)

-- Deleting tokens does not make others.
theorem infix_of_infix_erase (hp : Parted token cs) (hm : token m)
    (hi : m <:+: Text.erase read cs) : m <:+: cs ∧ ¬found m := by
  induction cs using h.induction
  case clean cs hn =>
    rw [h.erase_eq_self hn] at hi
    exact ⟨hi, fun hf => hn m hf hi⟩
  case token a m' rest hm' hs ih =>
    rw [h.erase_of_skips hm' hs] at hi
    have ⟨x, y, he⟩ := hi
    have ha := hp a m' rest (List.append_assoc a m' rest) (ht m' hm')
    rw [List.append_assoc] at he
    cases (ha _).eq_append hm he.symm
    case inl he =>
      have ⟨y', he⟩ := he
      have hia : m <:+: a := ⟨x, y', by rw [he, List.append_assoc]⟩
      refine ⟨?_, fun hf => h.not_infix_of_skips hs hf hia⟩
      exact hia.trans ((List.prefix_append a m').trans (List.prefix_append _ rest)).isInfix
    case inr he =>
      have ⟨x', _, he⟩ := he
      have ⟨hr, hf⟩ := ih hp.right ⟨x', y, by rw [he, List.append_assoc]⟩
      exact ⟨hr.trans (List.suffix_append _ rest).isInfix, hf⟩

end Parted

end Text

namespace Line

-- What is deleted from a label: markers and annotations.
def IsToken (m : List Char) : Prop :=
  Seo.IsAnnotation m ∨ Markers.IsStar m ∨ Markers.IsByHand m

-- There is no token in the text.
def IsClean (cs : List Char) : Prop :=
  ∀ m, IsToken m → ¬m <:+: cs

variable {cs m : List Char}

theorem IsToken.ne_nil (h : IsToken m) : m ≠ [] := by
  rcases h with h | h | h
  · exact Seo.reads_annotations.ne_nil m h
  · exact Markers.reads_stars.ne_nil m h
  · exact Markers.reads_byHand.ne_nil m h

-- A token starts with a parenthesis that only its last character closes.
theorem IsToken.parentheses (h : IsToken m) : m.head? = some '(' ∧ ')' ∉ m.dropLast := by
  rcases h with ⟨_, hp⟩ | (_ | _) | h
  · refine ⟨rfl, ?_⟩
    rw [List.dropLast_concat]
    simp [hp, Markers.seoOpener]
  · decide
  · decide
  · obtain ⟨c, body, hm, _⟩ := h.exists_body
    refine ⟨hm ▸ rfl, fun hp => ?_⟩
    have hf : Text.foldCase ')' ∈ (m.map Text.foldCase).dropLast :=
      List.map_dropLast ▸ List.mem_map_of_mem hp
    rw [h] at hf
    exact absurd hf (by decide)

-- Where a parenthesis opens, those that opened before it are closed.
def Unnested (cs : List Char) : Prop :=
  ∀ a ∈ cs.inits, (cs.drop a.length).head? = some '(' →
    ∀ p ∈ a.tails, p.head? = some '(' → ')' ∈ p

instance : DecidablePred Unnested :=
  fun cs => inferInstanceAs <| Decidable <| ∀ a ∈ cs.inits, (cs.drop a.length).head? = some '(' →
    ∀ p ∈ a.tails, p.head? = some '(' → ')' ∈ p

theorem Unnested.parted (h : Unnested cs) : Text.Parted IsToken cs := by
  intro a m b he hm rest p q hp hq hs _ ht
  have hc : (cs.drop a.length).head? = some '(' := by
    rw [he, List.drop_left, List.head?_append_of_ne_nil m hm.ne_nil]
    exact hm.parentheses.left
  have ⟨ho, hn⟩ := ht.parentheses
  rw [List.head?_append_of_ne_nil p hp] at ho
  rw [List.dropLast_append_of_ne_nil hq] at hn
  have hi : a ∈ cs.inits := (List.mem_inits a cs).mpr ⟨m ++ b, he.symm⟩
  exact hn <| List.mem_append_left _ <| h a hi hc p ((List.mem_tails p a).mpr hs) ho

theorem isClean_iff : IsClean cs ↔ (∀ m, Seo.IsAnnotation m → ¬m <:+: cs) ∧
    (∀ m, Markers.IsStar m → ¬m <:+: cs) ∧ ∀ m, Markers.IsByHand m → ¬m <:+: cs := by
  simp only [IsClean, IsToken, or_imp, forall_and]

-- A deletion can be undone by no other one.
theorem comp_eq_self_iff {f g : List Char → List Char} (hf : ∀ cs, (f cs).Sublist cs)
    (hg : ∀ cs, (g cs).Sublist cs) : g (f cs) = cs ↔ f cs = cs ∧ g cs = cs := by
  constructor
  case mp =>
    intro he
    have hs : f cs = cs := (hf cs).antisymm <| by simpa only [he] using hg (f cs)
    exact ⟨hs, by rwa [hs] at he⟩
  case mpr =>
    intro ⟨hs, he⟩
    rw [hs, he]

theorem strip_sublist (cs : List Char) : (Markers.strip cs).Sublist cs :=
  (Markers.reads_byHand.erase_sublist _).trans (Markers.reads_stars.erase_sublist cs)

theorem trim_strip_sublist (cs : List Char) : (Text.trim (Markers.strip cs)).Sublist cs :=
  (Text.trim_sublist _).trans (strip_sublist cs)

theorem label_sublist (cs : List Char) : (label cs).Sublist cs :=
  (trim_strip_sublist _).trans (Seo.reads_annotations.erase_sublist cs)

theorem label_eq_self_iff (ht : Text.trim cs = cs) : label cs = cs ↔ IsClean cs := by
  rw [isClean_iff, ← Seo.reads_annotations.erase_eq_self_iff,
    ← Markers.reads_stars.erase_eq_self_iff, ← Markers.reads_byHand.erase_eq_self_iff]
  have ha : label cs = cs ↔ Seo.strip cs = cs ∧ Text.trim (Markers.strip cs) = cs :=
    comp_eq_self_iff Seo.reads_annotations.erase_sublist trim_strip_sublist
  have hm : Text.trim (Markers.strip cs) = cs ↔ Markers.strip cs = cs ∧ Text.trim cs = cs :=
    comp_eq_self_iff strip_sublist Text.trim_sublist
  have hs : Markers.strip cs = cs ↔ _ :=
    comp_eq_self_iff Markers.reads_stars.erase_sublist Markers.reads_byHand.erase_sublist
  rw [ha, hm, hs, and_iff_left ht]
  rfl

theorem isClean_label_of_parted (h : Text.Parted IsToken cs) : IsClean (label cs) := by
  have hs := h.erase Seo.reads_annotations fun _ => .inl
  have hm := hs.erase Markers.reads_stars fun _ h => .inr (.inl h)
  intro m hm' hi
  have hi := hi.trans (Text.trim_isInfix _)
  have ⟨hi, hb⟩ := hm.infix_of_infix_erase Markers.reads_byHand (fun _ h => .inr (.inr h)) hm' hi
  have ⟨hi, hst⟩ := hs.infix_of_infix_erase Markers.reads_stars (fun _ h => .inr (.inl h)) hm' hi
  have ⟨_, ha⟩ := h.infix_of_infix_erase Seo.reads_annotations (fun _ => .inl) hm' hi
  exact hm'.elim ha (Or.elim · hst hb)

-- Every cleaning that changes the text makes it shorter.
theorem isClean_iterate_label {n : Nat} (h : cs.length ≤ n) : IsClean (label^[n] cs) := by
  induction n generalizing cs
  case zero =>
    rw [List.length_eq_zero_iff.mp (Nat.le_zero.mp h)]
    exact fun m hm hi => hm.ne_nil (List.infix_nil.mp hi)
  case succ n hi =>
    rw [Function.iterate_succ_apply]
    by_cases he : label cs = cs
    case pos =>
      have ht : Text.trim cs = cs := he ▸ Text.trim_trim _
      rw [he, Function.iterate_fixed he]
      exact (label_eq_self_iff ht).mp he
    case neg =>
      refine hi ?_
      have hl := (label_sublist cs).length_le
      have hn : (label cs).length ≠ cs.length := mt (label_sublist cs).eq_of_length he
      omega

-- Cleaning keeps a text exactly if it is clean, so that a label is clean exactly if cleaning it again
-- changes nothing. It is if no token begins in front of another one without being complete, and in
-- any case when the cleaning has been repeated.
theorem isClean_label (cs : List Char) :
    (Text.Trimmed cs → (label cs = cs ↔ IsClean cs)) ∧
    (IsClean (label cs) ↔ label (label cs) = label cs) ∧
    (Text.Parted IsToken cs → IsClean (label cs)) ∧
    IsClean (label^[cs.length] cs) :=
  ⟨fun ht => label_eq_self_iff (Text.trim_eq_self ht),
    (label_eq_self_iff (Text.trim_trim _)).symm, isClean_label_of_parted,
    isClean_iterate_label le_rfl⟩

theorem isClean_label_unnested :
    let cs := "(**) Té (verde) (AutoGeſtionable) (SEO: *a*) (*)".toList
    Text.Parted IsToken cs ∧ IsClean (label cs) ∧ label cs = "Té (verde)".toList := by
  intro cs
  have h : Unnested cs := by decide +kernel
  have ⟨_, _, hc, _⟩ := isClean_label cs
  exact ⟨h.parted, hc h.parted, by decide +kernel⟩

-- What is left on both sides of a marker is another one.
example : label "Tienda (*(*))".toList = "Tienda (*)".toList := by decide +kernel

end Line

end MenuOutline
