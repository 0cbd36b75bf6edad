import MenuOutline.Proofs.Datum.Merge
import MenuOutline.Proofs.Settings.Kind
import MenuOutline.Proofs.Settings.Sections
import MenuOutline.Toml.Reader

namespace MenuOutline.Settings

open Datum Record

-- The sections with their settings.
def schema : List (String × List (String × Kind)) := [
  ("languages", [("primary", .text), ("secondary", .text)]),
  ("parse", [("max_depth", .size), ("strict_pairing", .flag)]),
  ("processing", [("max_processes", .size)]),
  ("project", [("business_name", .text), ("domain", .text), ("email", .text), ("phone", .text)]),
  ("validation", [("min_pages", .size)])]

variable {overlay : List (String × Datum)} {s : Settings} {name key : String} {kind : Kind}

def Declares (name key : String) (kind : Kind) : Prop :=
  ∃ settings, (name, settings) ∈ schema ∧ (key, kind) ∈ settings

instance : Decidable (Declares name key kind) :=
  decidable_of_iff (∃ part ∈ schema, part.1 = name ∧ (key, kind) ∈ part.2) <| by
    simp [Declares, and_comm, and_assoc]

-- An overlay holds nothing but settings, with values of their kinds.
structure Fits (overlay : Datum) : Prop where
  sections {name d} : (overlay.get? [name] = some d) → name ∈ schema.map (·.1)
  settings {name key d} :
    (overlay.get? [name, key] = some d) → ∃ kind, Declares name key kind ∧ kind.Admits d

-- Every setting is that of the overlay where it has one, and otherwise the default.
def LaidOver (overlay : Datum) (s : Settings) : Prop :=
  ∀ name key kind, Declares name key kind → s.toDatum.get? [name, key] =
    ((overlay.get? [name, key]).map plain).or (default.toDatum.get? [name, key])

-- The defaults.
def stock : Keyed Datum := [
  ("languages", .table [("primary", .text "es")]),
  ("parse", .table [("max_depth", .int 3), ("strict_pairing", .bool false)]),
  ("processing", .table []), ("project", .table []),
  ("validation", .table [("min_pages", .int 2)])]

-- A section of the overlay over that of the defaults.
def overlaid (overlay : List (String × Datum)) (name : String) : Keyed Datum :=
  mergeMembers (membersAt name stock) (membersAt name overlay)

theorem lookup_mergeMembers_stock (hn : name ∈ schema.map (·.1))
    (h : ∀ d, overlay.lookup name = some d → ∃ ms, d = .table ms) :
    (mergeMembers stock overlay).lookup name = some (.table (overlaid overlay name)) := by
  have hs : ∀ name ∈ schema.map (·.1),
      stock.lookup name = some (.table (membersAt name stock)) := by decide
  exact lookup_mergeMembers_of_table (hs name hn) h

theorem sorted_overlaid (h : name ∈ schema.map (·.1)) : (overlaid overlay name).Sorted := by
  have hs : ∀ name ∈ schema.map (·.1), Keyed.Sorted (membersAt name stock) := by decide
  exact sorted_mergeMembers (hs name h)

theorem forall_mem_keys_overlaid_iff {names : List String}
    (h : ∀ k ∈ (membersAt name stock).map (·.1), k ∈ names) :
    (∀ k ∈ (overlaid overlay name).map (·.1), k ∈ names) ↔
      ∀ k ∈ (membersAt name overlay).map (·.1), k ∈ names :=
  forall_mem_keys_mergeMembers_iff h

-- What is wanted of one setting.
def Takes (overlay : List (String × Datum)) (s : Settings) (name key : String) (kind : Kind) :
    Prop :=
  (∀ d, (Datum.table overlay).get? [name, key] = some d → kind.Admits d) ∧
    s.toDatum.get? [name, key] = (((Datum.table overlay).get? [name, key]).map plain).or
      (default.toDatum.get? [name, key])

theorem takes_iff {α : Type} {read : Datum → Decoded α} {encode : α → Option Datum} {start a : α}
    (h : kind.Codes read encode)
    (hn : ∀ name key, (Datum.table overlay).get? [name, key] ≠ some .null)
    (hs : s.toDatum.get? [name, key] = encode a)
    (hd : default.toDatum.get? [name, key] = encode start) :
    Comes read ((overlaid overlay name).lookup key) start a ↔ Takes overlay s name key kind := by
  have hb : (membersAt name stock).lookup key = encode start := get?_pair.symm.trans hd
  have ht : ∀ ms, (membersAt name stock).lookup key ≠ some (.table ms) := by
    intro ms he
    have ⟨ha, _⟩ := (h.read_iff (d := .table ms) (by simp)).mp (h.read_of_encode (hb ▸ he))
    cases kind <;> exact ha
  rw [overlaid, lookup_mergeMembers_of_ne_table ht, hb, Takes, hs, hd, get?_pair, h.comes_iff]
  exact get?_pair ▸ hn name key

-- What is wanted of one section.
def PartTakes (overlay : List (String × Datum)) (s : Settings)
    (part : String × List (String × Kind)) : Prop :=
  (∀ k ∈ (membersAt part.1 overlay).map (·.1), k ∈ part.2.map (·.1)) ∧
    ∀ p ∈ part.2, Takes overlay s part.1 p.1 p.2

section Members

variable {α : Type} {encode : α → Datum} {a : Option α}

@[simp] theorem lookup_member_self : (member key encode a).lookup key = a.map encode := by
  cases a <;> simp [member]

theorem lookup_member_of_ne {k : String} (h : k ≠ key) : (member key encode a).lookup k = none := by
  cases a <;> simp [member, List.lookup_cons, beq_false_of_ne h]

end Members

theorem get?_secondary (s : Settings) :
    s.toDatum.get? ["languages", "secondary"] = s.languages.secondary.map Datum.text := by
  simp [toDatum, get?, List.lookup_cons]

theorem get?_max_processes (s : Settings) : s.toDatum.get? ["processing", "max_processes"] =
    s.maxProcesses.map fun n : Nat => Datum.int n := by
  cases h : s.maxProcesses <;> simp [toDatum, get?, List.lookup_cons, h]

theorem get?_business_name (s : Settings) :
    s.toDatum.get? ["project", "business_name"] = s.project.businessName.map Datum.text := by
  simp [toDatum, get?, List.lookup_cons, List.lookup_append, lookup_member_of_ne]

theorem get?_domain (s : Settings) :
    s.toDatum.get? ["project", "domain"] = s.project.domain.map Datum.text := by
  simp [toDatum, get?, List.lookup_cons, List.lookup_append, lookup_member_of_ne]

theorem get?_email (s : Settings) :
    s.toDatum.get? ["project", "email"] = s.project.email.map Datum.text := by
  simp [toDatum, get?, List.lookup_cons, List.lookup_append, lookup_member_of_ne]

theorem get?_phone (s : Settings) :
    s.toDatum.get? ["project", "phone"] = s.project.phone.map Datum.text := by
  simp [toDatum, get?, List.lookup_cons, List.lookup_append, lookup_member_of_ne]

-- The sections are taken from the defaults with the overlay, and there are no others.
theorem ofDatum_merge_iff_stores :
    ofDatum (default.toDatum.merge (.table overlay)) = .ok s ↔
      (∀ k ∈ overlay.map (·.1), k ∈ schema.map (·.1)) ∧
      storeMembers record.fields true default
        (Keyed.select (mergeMembers stock overlay) (schema.map (·.1))) = .ok s := by
  have he : default.toDatum.merge (.table overlay) = .table (mergeMembers stock overlay) := rfl
  rw [he, ofDatum, read_table_iff (schema.map (·.1)) rfl (by decide)
    (fun _ => List.Perm.mem_iff (by decide)) (sorted_mergeMembers (by decide)),
    forall_mem_keys_mergeMembers_iff (by decide)]
  rfl

open Kind in
theorem ofDatum_merge_iff
    (hs : ∀ name ∈ schema.map (·.1), ∀ d, overlay.lookup name = some d → ∃ ms, d = .table ms)
    (hn : ∀ name key, (Datum.table overlay).get? [name, key] ≠ some .null) :
    ofDatum (default.toDatum.merge (.table overlay)) = .ok s ↔
      (∀ k ∈ overlay.map (·.1), k ∈ schema.map (·.1)) ∧
        ∀ part ∈ schema, PartTakes overlay s part := by
  rw [ofDatum_merge_iff_stores,
    Keyed.select_eq_map fun name hm => lookup_mergeMembers_stock hm (hs name hm)]
  refine and_congr_right fun _ => ?_
  simp only [schema, List.map_cons, List.map_nil]
  rw [storeMembers_sections_iff (sorted_overlaid (by decide)) (sorted_overlaid (by decide))
    (sorted_overlaid (by decide)), read_languages_iff (sorted_overlaid (by decide)),
    read_project_iff (sorted_overlaid (by decide))]
  rw [forall_mem_keys_overlaid_iff (by decide), forall_mem_keys_overlaid_iff (by decide),
    forall_mem_keys_overlaid_iff (by decide), forall_mem_keys_overlaid_iff (by decide),
    forall_mem_keys_overlaid_iff (by decide)]
  rw [takes_iff (s := s) codes_text hn rfl rfl,
    takes_iff (s := s) codes_optionalText hn (get?_secondary s) rfl,
    takes_iff (s := s) codes_size hn rfl rfl,
    takes_iff (s := s) codes_flag hn rfl rfl,
    takes_iff (s := s) codes_optionalSize hn (get?_max_processes s) rfl,
    takes_iff (s := s) codes_optionalText hn (get?_business_name s) rfl,
    takes_iff (s := s) codes_optionalText hn (get?_domain s) rfl,
    takes_iff (s := s) codes_optionalText hn (get?_email s) rfl,
    takes_iff (s := s) codes_optionalText hn (get?_phone s) rfl,
    takes_iff (s := s) codes_size hn rfl rfl]
  simp only [PartTakes, List.forall_mem_cons, List.map_cons, List.map_nil, List.not_mem_nil,
    false_imp_iff, implies_true, and_true]

theorem eq_of_mem_schema {settings settings' : List (String × Kind)}
    (h : (name, settings) ∈ schema) (h' : (name, settings') ∈ schema) : settings = settings' := by
  have hn : (schema.map (·.1)).Nodup := by decide
  have := (Keyed.lookup_eq_some_of_mem hn h).symm.trans (Keyed.lookup_eq_some_of_mem hn h')
  exact Option.some.inj this

theorem Declares.kind_eq {kind' : Kind} (h : Declares name key kind)
    (h' : Declares name key kind') : kind = kind' := by
  have ⟨settings, hp, hk⟩ := h
  have ⟨_, hp', hk'⟩ := h'
  cases eq_of_mem_schema hp hp'
  have hn : ∀ part ∈ schema, (part.2.map (·.1)).Nodup := by decide
  have hn := hn _ hp
  have := (Keyed.lookup_eq_some_of_mem hn hk).symm.trans (Keyed.lookup_eq_some_of_mem hn hk')
  exact Option.some.inj this

theorem forall_declares_iff {P : String → String → Kind → Prop} :
    (∀ name key kind, Declares name key kind → P name key kind) ↔
      ∀ part ∈ schema, ∀ p ∈ part.2, P part.1 p.1 p.2 :=
  ⟨fun h _ hp _ hk => h _ _ _ ⟨_, hp, hk⟩, fun h _ _ _ ⟨_, hp, hk⟩ => h _ hp _ hk⟩

theorem fits_and_laidOver_iff : Fits (.table overlay) ∧ LaidOver (.table overlay) s ↔
    (∀ k ∈ overlay.map (·.1), k ∈ schema.map (·.1)) ∧
      ∀ part ∈ schema, PartTakes overlay s part := by
  refine ⟨fun ⟨hf, hl⟩ => ⟨?_, fun ⟨name, settings⟩ hp => ⟨?_, ?_⟩⟩, fun ⟨hn, hp⟩ => ⟨⟨?_, ?_⟩, ?_⟩⟩
  · intro k hk
    have ⟨d, hd⟩ := Keyed.mem_keys_iff_exists.mp hk
    exact hf.sections (get?_singleton.trans hd)
  · intro k hk
    have ⟨d, hd⟩ := Keyed.mem_keys_iff_exists.mp hk
    have ⟨kind, ⟨_, hp', hk⟩, _⟩ := hf.settings (get?_pair.trans hd)
    cases eq_of_mem_schema hp hp'
    exact List.mem_map_of_mem hk
  · intro ⟨key, kind⟩ hk
    refine ⟨fun d hd => ?_, hl _ _ _ ⟨settings, hp, hk⟩⟩
    have ⟨_, hk', ha⟩ := hf.settings hd
    cases hk'.kind_eq ⟨settings, hp, hk⟩
    exact ha
  · intro name d hd
    exact hn name <| Keyed.mem_keys_iff_exists.mpr ⟨d, get?_singleton.symm.trans hd⟩
  · intro name key d hd
    have hl := get?_pair.symm.trans hd
    have ⟨os, ho, _⟩ := lookup_membersAt_eq_some_iff.mp hl
    have hm := hn name <| Keyed.mem_keys_iff_exists.mpr ⟨_, ho⟩
    obtain ⟨⟨name, settings⟩, hs, rfl⟩ := List.mem_map.mp hm
    have ⟨hk, ht⟩ := hp _ hs
    have hm := hk key <| Keyed.mem_keys_iff_exists.mpr ⟨_, hl⟩
    obtain ⟨⟨key, kind⟩, hk, rfl⟩ := List.mem_map.mp hm
    exact ⟨kind, ⟨settings, hs, hk⟩, (ht _ hk).1 d hd⟩
  · exact forall_declares_iff.mpr fun part hs p hk => ((hp part hs).2 p hk).2

theorem Fits.admits {d : Datum} {o : Datum} (h : Fits o) (hk : Declares name key kind)
    (hd : o.get? [name, key] = some d) : kind.Admits d := by
  have ⟨_, hk', ha⟩ := h.settings hd
  exact hk'.kind_eq hk ▸ ha

theorem eq_of_get? {s' : Settings}
    (h : ∀ name key kind, Declares name key kind →
      s.toDatum.get? [name, key] = s'.toDatum.get? [name, key]) : s = s' := by
  have h := forall_declares_iff.mp h
  simp only [schema, List.forall_mem_cons, List.not_mem_nil, false_imp_iff, implies_true, and_true,
    get?_secondary, get?_max_processes, get?_business_name, get?_domain, get?_email,
    get?_phone] at h
  obtain ⟨⟨hpr, hse⟩, ⟨hde, hst⟩, hma, ⟨hbu, hdo, hem, hph⟩, hmi⟩ := h
  obtain ⟨⟨_, _⟩, _, _, _, ⟨_, _, _, _⟩, _⟩ := s
  obtain ⟨⟨_, _⟩, _, _, _, ⟨_, _, _, _⟩, _⟩ := s'
  cases Kind.codes_text.injective hpr
  cases Kind.codes_optionalText.injective hse
  cases Kind.codes_size.injective hde
  cases Kind.codes_flag.injective hst
  cases Kind.codes_optionalSize.injective hma
  cases Kind.codes_optionalText.injective hbu
  cases Kind.codes_optionalText.injective hdo
  cases Kind.codes_optionalText.injective hem
  cases Kind.codes_optionalText.injective hph
  cases Kind.codes_size.injective hmi
  rfl

theorem Fits.exists_encode {o : Datum} {α : Type} {read : Datum → Decoded α}
    {encode : α → Option Datum} (h : Fits o) (hc : kind.Codes read encode) (start : α)
    (name key : String) (hk : Declares name key kind) :
    ∃ a, encode a = ((o.get? [name, key]).map plain).or (encode start) :=
  hc.exists_encode_or start fun _ hd => h.admits hk hd

open Kind in
theorem exists_laidOver {o : Datum} (h : Fits o) : ∃ s, LaidOver o s := by
  have ⟨primary, hpr⟩ :=
    h.exists_encode codes_text defaultLanguage "languages" "primary" (by decide)
  have ⟨secondary, hse⟩ :=
    h.exists_encode codes_optionalText none "languages" "secondary" (by decide)
  have ⟨maxDepth, hde⟩ := h.exists_encode codes_size 3 "parse" "max_depth" (by decide)
  have ⟨strictPairing, hst⟩ :=
    h.exists_encode codes_flag false "parse" "strict_pairing" (by decide)
  have ⟨maxProcesses, hma⟩ :=
    h.exists_encode codes_optionalSize none "processing" "max_processes" (by decide)
  have ⟨businessName, hbu⟩ :=
    h.exists_encode codes_optionalText none "project" "business_name" (by decide)
  have ⟨domain, hdo⟩ := h.exists_encode codes_optionalText none "project" "domain" (by decide)
  have ⟨email, hem⟩ := h.exists_encode codes_optionalText none "project" "email" (by decide)
  have ⟨phone, hph⟩ := h.exists_encode codes_optionalText none "project" "phone" (by decide)
  have ⟨minPages, hmi⟩ := h.exists_encode codes_size 2 "validation" "min_pages" (by decide)
  let s : Settings := {
    languages := { primary, secondary }, maxDepth, strictPairing, minPages, maxProcesses
    project := { businessName, domain, email, phone } }
  refine ⟨s, forall_declares_iff.mpr ?_⟩
  simp only [schema, List.forall_mem_cons, List.not_mem_nil, false_imp_iff, implies_true, and_true,
    get?_secondary, get?_max_processes, get?_business_name, get?_domain, get?_email, get?_phone]
  exact ⟨⟨hpr, hse⟩, ⟨hde, hst⟩, hma, ⟨hbu, hdo, hem, hph⟩, hmi⟩

theorem resolve_eq_ok_iff {o : Option Datum} : resolve o = .ok s ↔
    ofDatum (o.elim default.toDatum default.toDatum.merge) = .ok s ∧ s.check = .ok () := by
  rw [resolve]
  simp only [bind_eq_ok_iff, mapError_eq_ok_iff]
  constructor
  · rintro ⟨s, hs, ⟨⟩, hc, ⟨⟩⟩
    exact ⟨hs, hc⟩
  · exact fun ⟨hs, hc⟩ => ⟨s, hs, (), hc, rfl⟩

-- An overlay takes effect key by key.
theorem resolve_overlay_iff
    (hs : ∀ name ∈ schema.map (·.1), ∀ d, overlay.lookup name = some d → ∃ ms, d = .table ms)
    (hn : ∀ name key, (Datum.table overlay).get? [name, key] ≠ some .null) :
    (∀ s, resolve (some (.table overlay)) = .ok s ↔
      Fits (.table overlay) ∧ LaidOver (.table overlay) s ∧ s.check = .ok ()) ∧
    (Fits (.table overlay) → ∃! s, LaidOver (.table overlay) s) := by
  refine ⟨fun s => ?_, fun h => ?_⟩
  · rw [resolve_eq_ok_iff, Option.elim_some, ofDatum_merge_iff hs hn, ← fits_and_laidOver_iff,
      and_assoc]
  · have ⟨s, hs⟩ := exists_laidOver h
    refine ⟨s, hs, fun s' hs' => eq_of_get? fun name key kind hk => ?_⟩
    exact (hs' name key kind hk).trans (hs name key kind hk).symm

-- A text, a date and a size over the defaults.
theorem resolve_overlay_sparse :
    let overlay : List (String × Datum) := [
      ("languages", .table [("secondary", .text "ca")]),
      ("project", .table [("phone", .date "1979-05-27")]),
      ("validation", .table [("min_pages", .int 0)])]
    (∀ name ∈ schema.map (·.1), ∀ d, overlay.lookup name = some d → ∃ ms, d = .table ms) ∧
    (∀ name key, (Datum.table overlay).get? [name, key] ≠ some .null) ∧
    (∀ s, resolve (some (.table overlay)) = .ok s ↔
      Fits (.table overlay) ∧ LaidOver (.table overlay) s ∧ s.check = .ok ()) ∧
    (Fits (.table overlay) → ∃! s, LaidOver (.table overlay) s) := by
  intro overlay
  have hs : ∀ name ∈ schema.map (·.1), ∀ d, overlay.lookup name = some d → ∃ ms, d = .table ms := by
    intro name _ d hd
    have ht : ∀ m ∈ overlay, ∃ ms, m.2 = .table ms := by simp [overlay]
    exact ht _ (Keyed.mem_of_lookup_eq_some hd)
  have hn : ∀ name key, (Datum.table overlay).get? [name, key] ≠ some .null := by
    intro name key h
    have ⟨os, ho, hd⟩ := lookup_membersAt_eq_some_iff.mp (get?_pair ▸ h)
    have ht : ∀ m ∈ overlay, ∀ os, m.2 = .table os → ∀ p ∈ os, p.2 ≠ .null := by simp [overlay]
    have hm := Keyed.mem_of_lookup_eq_some hd
    exact ht _ (Keyed.mem_of_lookup_eq_some ho) os rfl _ hm rfl
  exact ⟨hs, hn, resolve_overlay_iff hs hn⟩

-- A date is no text, and yet a setting that is a text takes it.
theorem resolve_date :
    let overlay : Datum := .table [("project", .table [("phone", .date "1979-05-27")])]
    Toml.read? "[project]\nphone = 1979-05-27\n" = some overlay ∧
      overlay.get? ["project", "phone"] = some (.date "1979-05-27") ∧
      ∃ s, resolve (some overlay) = .ok s ∧ s.project.phone = some "1979-05-27" :=
  ⟨by decide +kernel, rfl, _, rfl, rfl⟩

end MenuOutline.Settings
