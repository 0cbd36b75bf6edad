import MenuOutline.FileSystem.Disk
import MenuOutline.Proofs.Command.Query
import MenuOutline.Proofs.Settings.Overlay

namespace MenuOutline.Settings

open Datum Record

variable {l : Languages} {s : Settings} {flags : LanguageFlags} {ms : List (String × Datum)}

def inLanguages (l : Languages) (s : Settings) : Settings :=
  { s with languages := l }

-- Only the section of the languages depends on them.
theorem ignores_inLanguages {f : Datum.Field Settings} (h : f ∈ record.fields)
    (hn : f.name ≠ "languages") : f.Ignores (inLanguages l) := by
  simp only [record, List.mem_cons, List.not_mem_nil, or_false] at h
  obtain rfl | rfl | rfl | rfl | rfl := h
  · contradiction
  · refine fun s => read_of_ignores (parseRecord s) fun f hf => ?_
    simp only [parseRecord, List.mem_cons, List.not_mem_nil, or_false] at hf
    obtain rfl | rfl := hf <;> exact field_ignores fun _ _ => rfl
  · refine fun s => read_of_ignores (validationRecord s) fun f hf => ?_
    cases List.mem_singleton.mp hf
    exact field_ignores fun _ _ => rfl
  · intro s d
    simp only [inLanguages]
    cases (projectRecord s.project).read d <;> rfl
  · refine fun s => read_of_ignores (processingRecord s) fun f hf => ?_
    cases List.mem_singleton.mp hf
    exact field_ignores fun _ _ => rfl

-- The languages that are given, as an overlay.
def LanguageFlags.members (flags : LanguageFlags) : List (String × Datum) :=
  member "primary" .text flags.primary ++ member "secondary" .text flags.secondary

def LanguageFlags.toDatum (flags : LanguageFlags) : Datum :=
  .table [("languages", .table flags.members)]

theorem LanguageFlags.lookup_primary :
    flags.members.lookup "primary" = flags.primary.map .text := by
  simp [members, List.lookup_append, lookup_member_of_ne]

theorem LanguageFlags.lookup_secondary :
    flags.members.lookup "secondary" = flags.secondary.map .text := by
  simp [members, List.lookup_append, lookup_member_of_ne]

theorem LanguageFlags.keys_sublist :
    (flags.members.map (·.1)).Sublist ["primary", "secondary"] := by
  rw [members]
  cases flags.primary <;> cases flags.secondary <;> simp [member]

theorem LanguageFlags.sorted_members : Keyed.Sorted flags.members :=
  List.Pairwise.sublist keys_sublist (by decide)

-- An overlay over which the languages that are given are laid.
def withLanguages (flags : LanguageFlags) (ms : List (String × Datum)) : List (String × Datum) :=
  mergeMembers ms [("languages", .table flags.members)]

theorem lookup_withLanguages_of_ne {key : String} (h : key ≠ "languages") :
    (withLanguages flags ms).lookup key = ms.lookup key := by
  rw [withLanguages, lookup_mergeMembers, List.lookup_cons, beq_false_of_ne h]
  rfl

theorem membersAt_withLanguages
    (h : ∀ d, ms.lookup "languages" = some d → ∃ os, d = .table os) :
    membersAt "languages" (withLanguages flags ms) =
      mergeMembers (membersAt "languages" ms) flags.members := by
  simp only [membersAt, withLanguages, lookup_mergeMembers, List.lookup_cons_self, Option.elim_some]
  cases hm : ms.lookup "languages"
  case none => exact (mergeMembers_nil LanguageFlags.sorted_members).symm
  case some d =>
    obtain ⟨os, rfl⟩ := h d hm
    rfl

theorem lookup_overlaid_withLanguages {key : String} {given : Option String}
    (h : ∀ d, ms.lookup "languages" = some d → ∃ os, d = .table os)
    (hk : flags.members.lookup key = given.map .text) :
    (overlaid (withLanguages flags ms) "languages").lookup key =
      (given.map .text).or ((overlaid ms "languages").lookup key) := by
  have hb : ∀ bs, (membersAt "languages" stock).lookup key ≠ some (.table bs) := by
    intro bs hl
    have hs : ∀ m ∈ membersAt "languages" stock, m.2 = .text "es" := by decide
    have := hs _ (Keyed.mem_of_lookup_eq_some hl)
    contradiction
  rw [overlaid, overlaid, lookup_mergeMembers_of_ne_table hb, lookup_mergeMembers_of_ne_table hb,
    membersAt_withLanguages h, lookup_mergeMembers, hk]
  cases given
  case none   => rfl
  case some p => cases hm : (membersAt "languages" ms).lookup key <;> rfl

section Comes

variable {given : Option Datum}

theorem comes_text {start s : String} (p : Option String) (h : Comes readText given start s) :
    Comes readText ((p.map .text).or given) start (p.getD s) := by
  cases p
  case none   => exact h
  case some p => rfl

theorem comes_optionalText {start s : Option String} (p : Option String)
    (h : Comes (readOptional readText) given start s) :
    Comes (readOptional readText) ((p.map .text).or given) start (p.or s) := by
  cases p
  case none   => exact h
  case some p => rfl

end Comes

-- Languages that are given come before those that are read.
def LanguageFlags.over (flags : LanguageFlags) (l : Languages) : Languages where
  primary   := flags.primary.getD l.primary
  secondary := flags.secondary.or l.secondary

theorem read_languages_withLanguages
    (ht : ∀ d, ms.lookup "languages" = some d → ∃ os, d = .table os)
    (h : (languagesRecord default.languages).read (.table (overlaid ms "languages")) = .ok l) :
    (languagesRecord default.languages).read
      (.table (overlaid (withLanguages flags ms) "languages")) = .ok (flags.over l) := by
  have ⟨hk, hp, hs⟩ := (read_languages_iff (sorted_overlaid (by decide))).mp h
  refine (read_languages_iff (sorted_overlaid (by decide))).mpr ⟨?_, ?_, ?_⟩
  · rw [forall_mem_keys_overlaid_iff (by decide)] at hk ⊢
    rw [membersAt_withLanguages ht]
    intro k hm
    exact (mem_keys_mergeMembers_iff.mp hm).elim (LanguageFlags.keys_sublist.subset ·) (hk k)
  · rw [lookup_overlaid_withLanguages ht LanguageFlags.lookup_primary]
    exact comes_text flags.primary hp
  · rw [lookup_overlaid_withLanguages ht LanguageFlags.lookup_secondary]
    exact comes_optionalText flags.secondary hs

theorem exists_table_of_withLanguages {d : Datum}
    (h : (withLanguages flags ms).lookup "languages" = some d) : ∃ os, d = .table os := by
  rw [withLanguages, lookup_mergeMembers, List.lookup_cons_self] at h
  cases Option.some.inj h
  cases ms.lookup "languages"
  case none           => exact ⟨_, rfl⟩
  case some covered   => cases covered <;> exact ⟨_, rfl⟩

def otherSections : List String :=
  ["parse", "processing", "project", "validation"]

theorem select_merged (ht : ∀ d, ms.lookup "languages" = some d → ∃ os, d = .table os) :
    Keyed.select (mergeMembers stock ms) (schema.map (·.1)) =
      ("languages", .table (overlaid ms "languages")) ::
        Keyed.select (mergeMembers stock ms) otherSections := by
  have hs : schema.map (·.1) = "languages" :: otherSections := rfl
  rw [hs, Keyed.select, lookup_mergeMembers_stock (by decide) ht]
  rfl

theorem select_withLanguages :
    Keyed.select (mergeMembers stock (withLanguages flags ms)) otherSections =
      Keyed.select (mergeMembers stock ms) otherSections := by
  have hn : ∀ k ∈ otherSections, k ≠ "languages" := by decide
  refine Keyed.select_congr fun k hk => ?_
  rw [lookup_mergeMembers, lookup_mergeMembers, lookup_withLanguages_of_ne (hn k hk)]

theorem storeMembers_inLanguages {ps : Keyed Datum} :
    storeMembers record.fields true (inLanguages l s) (ps.select otherSections) =
      (storeMembers record.fields true s (ps.select otherSections)).map (inLanguages l) := by
  have hn : ∀ k ∈ otherSections, k ≠ "languages" := by decide
  refine storeMembers_of_ignores fun k hk f hf => ?_
  have he : f.name = k := by simpa using List.find?_some hf
  refine ignores_inLanguages (List.mem_of_find?_eq_some hf) ?_
  exact he ▸ hn k (Keyed.mem_names_of_select hk)

theorem ofDatum_withLanguages (flags : LanguageFlags)
    (ht : ∀ d, ms.lookup "languages" = some d → ∃ os, d = .table os)
    (h : ofDatum (default.toDatum.merge (.table ms)) = .ok s) :
    ofDatum (default.toDatum.merge (.table (withLanguages flags ms))) =
      .ok (s.withFlags flags) := by
  rw [ofDatum_merge_iff_stores] at h ⊢
  have ⟨hk, h⟩ := h
  refine ⟨fun k hm => ?_, ?_⟩
  · cases mem_keys_mergeMembers_iff.mp hm
    case inl hm =>
      have hm : k = "languages" := by simpa using hm
      exact hm ▸ by decide
    case inr hm => exact hk k hm
  rw [select_merged ht] at h
  rw [select_merged fun _ => exists_table_of_withLanguages, select_withLanguages]
  have ⟨s₁, hs₁, h⟩ := (storeMembers_cons_iff rfl).mp h
  obtain ⟨l, hl, ⟨⟩⟩ := bind_eq_ok_iff.mp hs₁
  -- The other sections are read in the same way, whatever the languages.
  have ⟨s₀, hs₀, hs⟩ := map_eq_ok_iff.mp <| storeMembers_inLanguages.symm.trans h
  have hf : record.fields[0].store default (.table (overlaid (withLanguages flags ms) "languages")) =
      .ok (inLanguages (flags.over l) default) :=
    bind_eq_ok_iff.mpr ⟨_, read_languages_withLanguages ht hl, rfl⟩
  refine (storeMembers_cons_iff rfl).mpr ⟨_, hf, ?_⟩
  rw [storeMembers_inLanguages, hs₀, ← hs]
  rfl

theorem applyFlags_eq_resolve
    (ht : ∀ d, ms.lookup "languages" = some d → ∃ os, d = .table os)
    (h : resolve (some (.table ms)) = .ok s) :
    applyFlags flags s =
      (resolve (some (.table (withLanguages flags ms)))).mapError ConfigError.settings := by
  have ho := ofDatum_withLanguages flags ht (resolve_eq_ok_iff.mp h).1
  have hr : resolve (some (.table (withLanguages flags ms))) =
      (s.withFlags flags).check.mapError .invalid >>= fun _ => .ok (s.withFlags flags) := by
    rw [resolve, Option.elim_some, ho]
    rfl
  rw [hr, applyFlags]
  cases (s.withFlags flags).check <;> rfl

section Loading

variable {σ : Type} {fs : FileSystem (StateM σ)} {disk disk' disk'' : σ} {menu dir : Path}
  {overlay : Option Datum} {e : ConfigError}

theorem exists_table_of_parseOverlay {content : String} {d : Datum}
    (h : parseOverlay content = .ok d) : ∃ ms, d = .table ms := by
  rw [parseOverlay] at h
  split at h
  case h_1 d' hd =>
    have ⟨doc, _, hd⟩ := Option.map_eq_some_iff.mp hd
    exact ⟨_, (Except.ok.inj h).symm.trans hd.symm⟩
  case h_2 => cases h

theorem loadOverlay_of_readText {content : String}
    (ht : (fs.isThere (dir.child filename)).run disk = (true, disk'))
    (hr : (fs.readText (dir.child filename)).run disk' = (.ok content, disk'')) :
    (loadOverlay fs dir).run.run disk = ((parseOverlay content).map some, disk'') := by
  rw [loadOverlay, run_bindExcept_of_run <| run_liftM_of_run ht]
  simp only [if_true]
  rw [run_bindExcept_of_run <| run_liftM_of_run hr]
  cases hp : parseOverlay content <;> simp only [hp] <;> rfl

theorem exists_table_of_loadOverlay {d : Datum}
    (h : (loadOverlay fs dir).run.run disk = (.ok (some d), disk')) : ∃ ms, d = .table ms := by
  cases ht : (fs.isThere (dir.child filename)).run disk
  case mk found disk₁ =>
    cases found
    case false =>
      rw [loadOverlay, run_bindExcept_of_run <| run_liftM_of_run ht] at h
      cases h
    case true =>
      cases hr : (fs.readText (dir.child filename)).run disk₁
      case mk text disk₂ =>
        cases text
        case error =>
          rw [loadOverlay, run_bindExcept_of_run <| run_liftM_of_run ht] at h
          simp only [if_true] at h
          rw [run_bindExcept_of_run <| run_liftM_of_run hr] at h
          cases h
        case ok content =>
          rw [loadOverlay_of_readText ht hr] at h
          have ⟨d', hp, hd⟩ := map_eq_ok_iff.mp (Prod.mk.inj h).1
          exact exists_table_of_parseOverlay (Option.some.inj hd ▸ hp)

theorem load_of_loadOverlay
    (h : (loadOverlay fs menu.directory).run.run disk = (.ok overlay, disk')) :
    (load fs menu).run.run disk = ((resolve overlay).mapError .settings, disk') := by
  rw [load, run_bindExcept_of_run h]
  cases resolve overlay <;> rfl

theorem loadWithFlags_of_load (h : (load fs menu).run.run disk = (.ok s, disk')) :
    (loadWithFlags fs flags menu).run.run disk = (applyFlags flags s, disk') := by
  rw [loadWithFlags, run_bindExcept_of_run h]
  cases applyFlags flags s <;> rfl

theorem loadWithFlags_of_load_error (h : (load fs menu).run.run disk = (.error e, disk')) :
    (loadWithFlags fs flags menu).run.run disk = (.error e, disk') :=
  run_bindExcept_of_error h _

-- Language codes that are given count like those of a settings file.
theorem loadWithFlags_eq_resolve :
    (∀ {e disk'}, (load fs menu).run.run disk = (.error e, disk') →
      (loadWithFlags fs flags menu).run.run disk = (.error e, disk')) ∧
    (∀ {overlay s disk'},
      (loadOverlay fs menu.directory).run.run disk = (.ok overlay, disk') →
      (∀ d, overlay.bind (get? ["languages"]) = some d → ∃ ms, d = .table ms) →
      resolve overlay = .ok s →
      (loadWithFlags fs flags menu).run.run disk =
        ((resolve (some ((overlay.getD (.table [])).merge flags.toDatum))).mapError .settings,
          disk')) := by
  refine ⟨loadWithFlags_of_load_error, fun {overlay s disk'} ho ht hs => ?_⟩
  have hl := load_of_loadOverlay ho
  rw [hs] at hl
  rw [loadWithFlags_of_load hl]
  cases overlay
  case none =>
    have hs : resolve (some (.table [])) = .ok s := hs
    rw [applyFlags_eq_resolve (by simp) hs]
    rfl
  case some d =>
    obtain ⟨ms, rfl⟩ := exists_table_of_loadOverlay ho
    have ht : ∀ d, ms.lookup "languages" = some d → ∃ os, d = .table os :=
      fun d hd => ht d (get?_singleton.trans hd)
    rw [applyFlags_eq_resolve ht hs]
    rfl

-- The second language of the file is given as the first one too. Where the file is at fault, that
-- is what is told.
theorem loadWithFlags_eq_resolve_twice :
    let menu := Path.ofString "menu.txt"
    let flags : LanguageFlags := { primary := some "ca", secondary := none }
    let disk : Disk := [(["config.toml"], .file "[languages]\nsecondary = \"ca\"\n".toUTF8)]
    let faulty : Disk := [(["config.toml"], .file "[parse]\nmax_depth = 0\n".toUTF8)]
    let overlay : Datum := .table [("languages", .table [("secondary", .text "ca")])]
    let both : Datum :=
      .table [("languages", .table [("primary", .text "ca"), ("secondary", .text "ca")])]
    (loadOverlay Disk.fileSystem menu.directory).run.run disk = (.ok (some overlay), disk) ∧
      overlay.merge flags.toDatum = both ∧
      (loadWithFlags Disk.fileSystem flags menu).run.run disk =
        ((resolve (some both)).mapError .settings, disk) ∧
      resolve (some both) = .error (.invalid .sameLanguages) ∧
      (loadWithFlags Disk.fileSystem flags menu).run.run faulty =
        (.error (.settings <| .invalid .noLevels), faulty) := by
  intro menu flags disk faulty overlay both
  have hl : (loadOverlay Disk.fileSystem menu.directory).run.run disk =
      (.ok (some overlay), disk) := by
    have hr : (Disk.fileSystem.readText (menu.directory.child filename)).run disk =
      (.ok "[languages]\nsecondary = \"ca\"\n", disk) := rfl
    have hp : Toml.read? "[languages]\nsecondary = \"ca\"\n" = some overlay := by decide +kernel
    have ht : (Disk.fileSystem.isThere (menu.directory.child filename)).run disk =
      (true, disk) := rfl
    rw [loadOverlay_of_readText ht hr, parseOverlay, hp]
    rfl
  have hs : resolve (some overlay) = .ok
      { default with languages := { default.languages with secondary := some "ca" } } := rfl
  have hf : (load Disk.fileSystem menu).run.run faulty =
      (.error (.settings <| .invalid .noLevels), faulty) := by
    have hr : (Disk.fileSystem.readText (menu.directory.child filename)).run faulty =
      (.ok "[parse]\nmax_depth = 0\n", faulty) := rfl
    have hp : Toml.read? "[parse]\nmax_depth = 0\n" =
      some (.table [("parse", .table [("max_depth", .int 0)])]) := by decide +kernel
    have ht : (Disk.fileSystem.isThere (menu.directory.child filename)).run faulty =
      (true, faulty) := rfl
    have hl := loadOverlay_of_readText ht hr
    rw [parseOverlay, hp] at hl
    rw [load_of_loadOverlay hl]
    rfl
  have hm : overlay.merge flags.toDatum = both := by decide
  have ht : ∀ d, (some overlay).bind (get? ["languages"]) = some d → ∃ ms, d = .table ms :=
    fun d hd => ⟨_, (Option.some.inj hd).symm⟩
  exact ⟨hl, hm, hm ▸ loadWithFlags_eq_resolve.2 hl ht hs, rfl, loadWithFlags_eq_resolve.1 hf⟩

end Loading

end MenuOutline.Settings
