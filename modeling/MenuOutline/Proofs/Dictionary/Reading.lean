import MenuOutline.Site
import MenuOutline.Proofs.Datum.Reordered
import MenuOutline.Proofs.Keyed
import MenuOutline.Proofs.Menu.Parses

namespace MenuOutline

open Datum

namespace DictionaryEntry

variable {e : DictionaryEntry} {ms ns : List (String × Datum)} {ts : List (String × String)}

-- The languages of an entry.
def codes (e : DictionaryEntry) : List String :=
  e.texts.map (·.1)

def textMember (t : String × String) : String × Datum :=
  (t.1, .text t.2)

def members (e : DictionaryEntry) : List (String × Datum) :=
  (("key", e.key) :: e.texts).map textMember

theorem toDatum_eq (e : DictionaryEntry) : e.toDatum = .table e.members :=
  rfl

theorem names_eq (e : DictionaryEntry) : e.members.map (·.1) = "key" :: e.codes := by
  simp [members, codes, textMember]

theorem eq_map_textMember (h : List.Forall₂ ReorderedMember (ts.map textMember) ms) :
    ms = ts.map textMember := by
  induction ts generalizing ms
  case nil =>
    cases h
    rfl
  case cons t ts hi =>
    obtain _ | ⟨⟨_, ⟨⟩⟩, h⟩ := h
    rw [hi h]
    rfl

theorem readTexts_of_forall₂ (h : List.Forall₂ (fun m t => m = textMember t) ms ts) :
    readTexts ms = .ok (Keyed.gather ts) := by
  induction h
  case nil => rfl
  case cons ht _ hi =>
    rw [ht, textMember, readTexts, hi]
    rfl

-- The texts may come in any order.
theorem readTexts_of_perm (hs : Keyed.Sorted ts) (hp : (ts.map textMember).Perm ms) :
    readTexts ms = .ok ts := by
  have h : List.Forall₂ (fun m t => m = textMember t) (ts.map textMember) ts :=
    List.forall₂_map_left_iff.mpr <| List.forall₂_same.mpr fun _ _ => rfl
  have ⟨us, h, hp⟩ := List.perm_comp_forall₂ hp.symm h
  rw [readTexts_of_forall₂ h, Keyed.gather_eq_of_perm hs hp]

theorem members_filter (e : DictionaryEntry) : e.members.filter (·.1 != "key") =
    (e.texts.filter (·.1 != "key")).map textMember := by
  rw [members, List.map_cons, List.filter_cons_of_neg (by simp [textMember]), List.filter_map]
  rfl

theorem filter_key_members (e : DictionaryEntry) : e.members.filter (·.1 == "key") =
    ("key", .text e.key) :: (e.texts.filter (·.1 == "key")).map textMember := by
  rw [members, List.map_cons, List.filter_cons_of_pos (by simp [textMember]), List.filter_map]
  rfl

theorem readOnce_of_filter {d : Datum} (h : ms.filter (·.1 == "key") = [("key", d)]) :
    readOnce "key" readText ms = (atKey "key" readText d).map some := by
  rw [readOnce, h]

-- Without a language of this name the member "key" is found in any order.
theorem ofDatum_of_perm (hs : Keyed.Sorted e.texts) (hk : "key" ∉ e.codes)
    (hp : e.members.Perm ms) : ofDatum (.table ms) = .ok e := by
  have hn : ∀ t ∈ e.texts, t.1 ≠ "key" := fun t ht he => hk <| he ▸ List.mem_map_of_mem ht
  have ho : ms.filter (·.1 == "key") = [("key", .text e.key)] := by
    have hf : e.texts.filter (·.1 == "key") = [] :=
      List.filter_eq_nil_iff.mpr fun t ht => by simpa using hn t ht
    have hm := hp.filter (·.1 == "key")
    rw [filter_key_members, hf] at hm
    exact (List.singleton_perm.mp hm).symm
  have ht : readTexts (ms.filter (·.1 != "key")) = .ok e.texts := by
    have hf : e.texts.filter (·.1 != "key") = e.texts :=
      List.filter_eq_self.mpr fun t ht => bne_iff_ne.mpr (hn t ht)
    refine readTexts_of_perm hs ?_
    rw [← hf, ← members_filter]
    exact hp.filter _
  simp only [ofDatum, readOnce_of_filter ho, ht]
  rfl

-- A language of this name makes it a second member "key".
theorem ofDatum_toDatum_of_mem (hk : "key" ∈ e.codes) :
    ofDatum e.toDatum = mismatch (.duplicateField "key") := by
  have ⟨t, ht, hk⟩ := List.mem_map.mp hk
  have hm : t ∈ e.texts.filter (·.1 == "key") := List.mem_filter.mpr ⟨ht, beq_iff_eq.mpr hk⟩
  have hf := filter_key_members e
  cases he : e.texts.filter (·.1 == "key")
  case nil => exact absurd (he ▸ hm) List.not_mem_nil
  case cons t' ts =>
    rw [he] at hf
    simp only [toDatum_eq, ofDatum, readOnce, hf]
    rfl

theorem nodup_names_iff (hs : Keyed.Sorted e.texts) :
    (e.members.map (·.1)).Nodup ↔ "key" ∉ e.codes := by
  rw [names_eq, List.nodup_cons]
  exact and_iff_left hs.nodup_keys

theorem reads_back_iff (hs : Keyed.Sorted e.texts) :
    ReadAs ofDatum e.toDatum e ↔ "key" ∉ e.codes := by
  constructor
  case mp =>
    intro h hk
    have he := (ofDatum_toDatum_of_mem hk).symm.trans <| h _ <| .refl _
    contradiction
  case mpr =>
    intro hk d hd
    rw [toDatum_eq] at hd
    have ⟨ns, os, hd, hm, hp⟩ := hd.exists_members
    rw [eq_map_textMember hm] at hp
    rw [hd]
    exact ofDatum_of_perm hs hk hp

-- An entry has a text in the first language and none outside the two, each language once.
structure WellFormed (l : Languages) (e : DictionaryEntry) : Prop where
  sorted  : Keyed.Sorted e.texts
  primary : l.primary ∈ e.codes
  codes   : e.codes ⊆ l.toList

variable {l : Languages}

theorem wellFormed_make (l : Languages) (key text : String) (other : Option String) :
    (make l key text other).WellFormed l := by
  have hs : Keyed.Sorted (Keyed.insert l.primary text []) := Keyed.Sorted.nil.insert ..
  unfold make
  cases hl : l.secondary <;> cases other
  case some.some language other =>
    refine ⟨hs.insert .., ?_, fun code hc => ?_⟩
    · simp [DictionaryEntry.codes, Keyed.mem_keys_insert_iff]
    · simp only [DictionaryEntry.codes, Keyed.mem_keys_insert_iff] at hc
      simpa [Languages.toList, hl, or_comm] using hc
  all_goals exact ⟨hs, .head _, List.cons_subset_cons _ <| List.nil_subset _⟩

theorem wellFormed_ofPage (l : Languages) (business : String) (p : Page) :
    ∀ e ∈ ofPage l business p, e.WellFormed l := by
  unfold ofPage
  cases p.dictionaryKey
  case none => simp
  case some => cases p.hasFile <;> simp [wellFormed_make]

theorem wellFormed_of_mem_dictionary {business : Option String} {pages : Outline Page}
    (h : e ∈ dictionary l business pages) : e.WellFormed l :=
  have ⟨p, _, h⟩ := List.mem_flatMap.mp h
  wellFormed_ofPage l _ p e h

end DictionaryEntry

namespace Manifest

open DictionaryEntry

variable {m : Menu} {s : Settings} {e : DictionaryEntry}

theorem languagesOf_toList_subset (m : Menu) (s : Settings) :
    (languagesOf m s).toList ⊆ s.languages.toList := by
  unfold languagesOf Languages.toList
  cases m.hasSecondary <;> simp

-- A dictionary entry is an object with the member "key" and one for each of its languages, which
-- are configured and among which is the first one. The names are distinct, and the entry is read
-- back from the object, if and only if no language of the entry is called "key".
theorem entry_reads_back_iff (he : e ∈ (build m s).dictionary) :
    (∃ ms, e.toDatum = .table ms ∧ ms.map (·.1) = "key" :: e.codes ∧
      ((ms.map (·.1)).Nodup ↔ "key" ∉ e.codes)) ∧
    (s.languages.primary ∈ e.codes ∧ e.codes ⊆ s.languages.toList) ∧
    ((∀ d, e.toDatum.Reordered d → ofDatum d = .ok e) ↔ "key" ∉ e.codes) := by
  have w := wellFormed_of_mem_dictionary he
  have hc := List.Subset.trans w.codes <| languagesOf_toList_subset m s
  exact ⟨⟨e.members, rfl, e.names_eq, nodup_names_iff w.sorted⟩, ⟨w.primary, hc⟩,
    reads_back_iff w.sorted⟩

-- A language may be called "key": the entries of a page with a counterpart are then not read back,
-- those of a page without one are.
theorem entry_reads_back_iff_key :
    let s : Settings := { Settings.default with languages := ⟨"es", some "key"⟩ }
    let content := "Inicio\nBlog\n----------\nInici\n"
    ∃ m, s.check = .ok () ∧ Menu.parse s.parseOptions content = .ok m ∧
      (∃ e ∈ (build m s).dictionary, e.codes = ["es", "key"] ∧
        ¬∀ d, e.toDatum.Reordered d → ofDatum d = .ok e) ∧
      ∃ e ∈ (build m s).dictionary, e.codes = ["es"] ∧
        ∀ d, e.toDatum.Reordered d → ofDatum d = .ok e := by
  intro s content
  have hs : s.check = .ok () := by decide
  have ⟨m, hm, ⟨e, he, hc⟩, ⟨e', he', hc'⟩⟩ : ∃ m ∈ (Menu.parse s.parseOptions content).toOption,
      (∃ e ∈ (build m s).dictionary, e.codes = ["es", "key"]) ∧
      ∃ e ∈ (build m s).dictionary, e.codes = ["es"] := by
    decide +kernel
  have hr := (entry_reads_back_iff he).right.right
  have hr' := (entry_reads_back_iff he').right.right
  rw [hc] at hr
  rw [hc'] at hr'
  exact ⟨m, hs, Menu.mem_toOption_parse.mp hm, ⟨e, he, hc, mt hr.mp <| by decide⟩,
    ⟨e', he', hc', hr'.mpr <| by decide⟩⟩

end Manifest

end MenuOutline
