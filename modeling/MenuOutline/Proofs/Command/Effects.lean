import MenuOutline.Proofs.Command.Agreement
import MenuOutline.Proofs.Command.Checks
import MenuOutline.Proofs.FileSystem.Disk
import MenuOutline.Proofs.Menu.Parses

namespace MenuOutline

open FileSystem

variable {σ ι : Type} {fs : FileSystem (StateM σ)} {L : fs.Files ι} {s s' : σ}

namespace Site

variable {site : Site} {output dir : Path}

-- Files that are written one after the other, up to the first fault, are the only ones that change.
theorem changes_writeAll (files : List (String × String)) (s : σ) :
    L.Changes dir (files.map (·.1)) s ((writeAll fs dir files).run.run s).2 := by
  induction files generalizing s
  case nil => exact .refl
  case cons file files hi =>
    obtain ⟨name, text⟩ := file
    have hw : L.Changes dir (name :: files.map (·.1)) s
      ((fs.writeText (dir.child name) text).run s).2 := .writeText s text (.head _)
    cases hr : (fs.writeText (dir.child name) text).run s
    case mk r s₁ =>
      rw [hr] at hw
      rw [writeAll, run_bindExcept_of_run <| run_liftM_of_run hr]
      cases r
      case error => exact hw
      case ok    => exact hw.trans <| (hi s₁).mono (List.subset_cons_self ..)

theorem written_writeAll {files : List (String × String)}
    (h : (writeAll fs dir files).run.run s = (.ok (), s')) : L.Written dir s' files := by
  induction files generalizing s
  case nil => exact trivial
  case cons file files hi =>
    obtain ⟨name, text⟩ := file
    cases hr : (fs.writeText (dir.child name) text).run s
    case mk r s₁ =>
      rw [writeAll, run_bindExcept_of_run <| run_liftM_of_run hr] at h
      cases r
      case error => cases h
      case ok =>
        have h : (writeAll fs dir files).run.run s₁ = (.ok (), s') := h
        have hc : L.Changes dir (files.map (·.1)) s₁ ((writeAll fs dir files).run.run s₁).2 :=
          changes_writeAll files s₁
        rw [h] at hc
        refine ⟨.of_changes (congrArg Prod.fst hr) ?_, hi h⟩
        rwa [hr]

theorem changes_place (s : σ) :
    L.Changes output (site.files.map (·.1)) s ((place fs output site).run.run s).2 := by
  have hd : L.Changes output (site.files.map (·.1)) s ((fs.makeDirectories output).run s).2 :=
    .makeDirectories s output
  cases hr : (fs.makeDirectories output).run s
  case mk r s₁ =>
    rw [hr] at hd
    rw [place, run_bindExcept_of_run <| run_liftM_of_run hr]
    cases r
    case error => exact hd
    case ok    => exact hd.trans <| changes_writeAll _ s₁

theorem files_ofMenu (settings : Settings) (m : Menu) :
    let manifest := Manifest.build m settings
    (ofMenu settings m).files = [
      ("menu.json", Json.pretty manifest.toDatum),
      ("_diccionario.php", dictionaryFile manifest.languages manifest.dictionary),
      ("_urls.php", routeFile manifest.languages manifest.routes),
      ("_menu.php", navigationFile manifest.navigation)] :=
  rfl

theorem written_place (h : (place fs output site).run.run s = (.ok (), s')) :
    L.Written output s' site.files := by
  cases hr : (fs.makeDirectories output).run s
  case mk r s₁ =>
    rw [place, run_bindExcept_of_run <| run_liftM_of_run hr] at h
    cases r
    case error => cases h
    case ok    => exact written_writeAll h

end Site

namespace Command

variable {w : Wording} {flags : Settings.LanguageFlags} {menu : Path} {fault : String}

section Finish

variable {x : ExceptT String (StateM σ) String} {output : String}

theorem run_finish_of_ok (h : x.run.run s = (.ok output, s')) :
    (finish x).run s = (.success output, s') := by
  rw [finish, run_bind_of_run h]
  rfl

theorem run_finish_of_error (h : x.run.run s = (.error fault, s')) :
    (finish x).run s = (.failure "" fault, s') := by
  rw [finish, run_bind_of_run h]
  rfl

theorem isQuery_finish (h : IsQuery x.run) : IsQuery (finish x) := by
  refine h.bind fun r => ?_
  cases r <;> exact .pure _

end Finish

section Queries

variable (h : fs.IsQuiet)
include h

theorem isQuery_loadSettings : IsQuery (loadSettings w fs flags menu).run :=
  (h.loadWithFlags flags menu).adapt _

theorem isQuery_readMenu : IsQuery (readMenu fs menu).run := by
  refine .bindExcept (.liftM <| h.readText menu) fun text => ?_
  cases text <;> exact .pure _

theorem isQuery_parse (menu : String) (json : Bool) : IsQuery (parse w fs flags menu json) := by
  refine isQuery_finish <| .bindExcept (isQuery_loadSettings h) fun settings => ?_
  refine .bindExcept (isQuery_readMenu h) fun content => ?_
  cases Menu.parse settings.parseOptions content
  case error => exact .pure _
  case ok    => cases json <;> exact .pure _

end Queries

-- Why a menu has no site, with what is told: its settings cannot be had, it cannot be read, or it
-- does not pass.
inductive Refused (w : Wording) (fs : FileSystem (StateM σ)) (flags : Settings.LanguageFlags)
    (menu : Path) (s : σ) : String → Prop
  | settings {e} :
    (answer s (Settings.loadWithFlags fs flags menu).run = .error e) →
    Refused w fs flags menu s (e.fault w)
  | unreadable {settings e} :
    (answer s (Settings.loadWithFlags fs flags menu).run = .ok settings) →
    (answer s (fs.readText menu) = .error e) → Refused w fs flags menu s (SiteError.file e).fault
  | rejected {settings content e} :
    (answer s (Settings.loadWithFlags fs flags menu).run = .ok settings) →
    (answer s (fs.readText menu) = .ok content) → Menu.Rejected settings content e →
    Refused w fs flags menu s e.fault

structure Accepted (fs : FileSystem (StateM σ)) (flags : Settings.LanguageFlags) (menu : Path)
    (s : σ) (settings : Settings) (content : String) (m : Menu) : Prop where
  loads  : answer s (Settings.loadWithFlags fs flags menu).run = .ok settings
  reads  : answer s (fs.readText menu) = .ok content
  passes : Menu.Passes settings content m

theorem refused_or_accepted (w : Wording) (fs : FileSystem (StateM σ))
    (flags : Settings.LanguageFlags) (menu : Path) (s : σ) :
    (∃ fault, Refused w fs flags menu s fault) ∨
      ∃ settings content m, Accepted fs flags menu s settings content m := by
  cases hl : answer s (Settings.loadWithFlags fs flags menu).run
  case error => exact .inl ⟨_, .settings hl⟩
  case ok settings =>
    cases hr : answer s (fs.readText menu)
    case error => exact .inl ⟨_, .unreadable hl hr⟩
    case ok content =>
      cases Menu.rejected_or_passes settings content
      case inl h =>
        have ⟨_, h⟩ := h
        exact .inl ⟨_, .rejected hl hr h⟩
      case inr h =>
        have ⟨m, h⟩ := h
        exact .inr ⟨settings, content, m, hl, hr, h⟩

section Generate

variable {menu output : String} {settings : Settings} {content : String} {m : Menu}

theorem run_loadSettings (h : fs.IsQuiet) (flags : Settings.LanguageFlags) (menu : Path) (s : σ) :
    (loadSettings w fs flags menu).run.run s =
      ((answer s (Settings.loadWithFlags fs flags menu).run).mapError (ConfigError.fault w), s) :=
  run_adapt_of_run ((h.loadWithFlags flags menu).run_eq s) _

theorem run_generate_of_refused (h : fs.IsQuiet)
    (hr : Refused w fs flags (.ofString menu) s fault) :
    (generate w fs flags menu output).run s = (.failure "" fault, s) := by
  have hl := run_loadSettings (w := w) h flags (.ofString menu) s
  refine run_finish_of_error ?_
  cases hr
  case settings he =>
    rw [he] at hl
    exact run_bindExcept_of_error hl _
  case unreadable settings e hs he =>
    rw [hs] at hl
    have ht : (fs.readText (.ofString menu)).run s = (.error e, s) := he ▸ (h.readText _).run_eq s
    have hg : (Site.generate fs settings (.ofString menu) (.ofString output)).run.run s =
        (.error (.file e), s) := by
      rw [Site.generate, run_bindExcept_of_run <| run_liftM_of_run ht]
      rfl
    rw [run_bindExcept_of_run hl]
    exact run_bindExcept_of_error (run_adapt_of_run hg _) _
  case rejected settings content e hs ht hm =>
    rw [hs] at hl
    have ht : (fs.readText (.ofString menu)).run s = (.ok content, s) :=
      ht ▸ (h.readText _).run_eq s
    have ho : Site.ofContent settings content = .error e := by
      rw [Site.ofContent, Menu.ofContent_eq_judge, hm.judge_eq]
      rfl
    rw [run_bindExcept_of_run hl]
    exact run_bindExcept_of_error (run_adapt_of_run (Site.generate_of_error ht ho) _) _

theorem ofContent_of_passes (h : Menu.Passes settings content m) :
    Site.ofContent settings content = .ok (.ofMenu settings m) := by
  rw [Site.ofContent, Menu.ofContent_eq_judge, h.judge_eq]
  rfl

-- What is left to do for a menu that passes is to place the files of its site.
theorem run_generate_of_accepted (h : fs.IsQuiet)
    (ha : Accepted fs flags (.ofString menu) s settings content m) {r : Except SiteError Unit}
    (hp : (Site.place fs (.ofString output) (.ofMenu settings m)).run.run s = (r, s')) :
    (generate w fs flags menu output).run s = match r with
      | .ok () => (.success (RunResult.lines (Report.ofGenerate (.ofMenu settings m) output)), s')
      | .error e => (.failure "" e.fault, s') := by
  have hl := run_loadSettings (w := w) h flags (.ofString menu) s
  rw [ha.loads] at hl
  have ht : (fs.readText (.ofString menu)).run s = (.ok content, s) :=
    ha.reads ▸ (h.readText _).run_eq s
  have ho : (liftM (Site.ofContent settings content) :
      ExceptT SiteError (StateM σ) Site).run.run s = (.ok (.ofMenu settings m), s) := by
    rw [ofContent_of_passes ha.passes]
    rfl
  have hg : (Site.generate fs settings (.ofString menu) (.ofString output)).run.run s =
      (r.map fun _ => .ofMenu settings m, s') := by
    rw [Site.generate, run_bindExcept_of_run <| run_liftM_of_run ht]
    simp only
    rw [run_bindExcept_of_run ho]
    cases r
    case error => exact run_bindExcept_of_error hp _
    case ok    => rw [run_bindExcept_of_run hp]; rfl
  cases r
  case error e =>
    refine run_finish_of_error ?_
    rw [run_bindExcept_of_run hl]
    exact run_bindExcept_of_error (run_adapt_of_run hg _) _
  case ok =>
    refine run_finish_of_ok ?_
    rw [run_bindExcept_of_run hl, run_bindExcept_of_run (run_adapt_of_run hg _)]
    rfl

end Generate

-- The files that are generated.
def siteNames : List String :=
  ["menu.json", "_diccionario.php", "_urls.php", "_menu.php"]

-- What a request may do to the files. A menu that is refused leaves everything as it is. One that
-- is accepted changes no files but those that the names of its site lead to, and with success its
-- manifest, as the menu was before, is written there under the four names, one after the other.
def Effect (w : Wording) (L : fs.Files ι) (i : Invocation) (s : σ) (r : RunResult × σ) : Prop :=
  match i.request with
  | .generate menu output =>
    let source := Path.ofString menu
    let target := Path.ofString output
    (∀ fault, Refused w fs i.flags source s fault → r = (.failure "" fault, s)) ∧
    ((∃ fault, Refused w fs i.flags source s fault) ∨
      ∃ settings content m, Accepted fs i.flags source s settings content m) ∧
    (∀ i, L.content? r.2 i ≠ L.content? s i →
      ∃ name ∈ siteNames, L.place? r.2 (target.child name) = some i) ∧
    (r.1.code = 0 → ∃ settings content m, Accepted fs i.flags source s settings content m ∧
      let manifest := Manifest.build m settings
      L.Written target r.2 [
        ("menu.json", Json.pretty manifest.toDatum),
        ("_diccionario.php", dictionaryFile manifest.languages manifest.dictionary),
        ("_urls.php", routeFile manifest.languages manifest.routes),
        ("_menu.php", navigationFile manifest.navigation)])
  | _ => r.2 = s

theorem effect_generate (w : Wording) (L : fs.Files ι) (flags : Settings.LanguageFlags)
    (menu output : String) (s : σ) :
    Effect w L ⟨flags, .generate menu output⟩ s ((generate w fs flags menu output).run s) := by
  cases refused_or_accepted w fs flags (.ofString menu) s
  case inl hr =>
    have ⟨fault, h⟩ := hr
    have hg : (generate w fs flags menu output).run s = (.failure "" fault, s) :=
      run_generate_of_refused L.isQuiet h
    refine ⟨fun _ => run_generate_of_refused L.isQuiet, .inl hr, fun i hi => ?_, fun hc => ?_⟩
    · rw [hg] at hi
      contradiction
    · rw [hg] at hc
      contradiction
  case inr ha =>
    have ⟨settings, content, m, h⟩ := ha
    refine ⟨fun _ => run_generate_of_refused L.isQuiet, .inr ha, ?_⟩
    cases hp : (Site.place fs (.ofString output) (.ofMenu settings m)).run.run s
    case mk r s' =>
      have hg := run_generate_of_accepted (w := w) L.isQuiet h hp
      have hc : L.Changes (.ofString output) siteNames s
          ((Site.place fs (.ofString output) (.ofMenu settings m)).run.run s).2 :=
        Site.changes_place s
      rw [hp] at hc
      have hf : ∀ i, L.content? s' i ≠ L.content? s i →
          ∃ name ∈ siteNames, L.place? s' ((Path.ofString output).child name) = some i := by
        intro i hi
        by_contra hn
        exact hi <| hc.contents fun name hm hi => hn ⟨name, hm, hi⟩
      cases r <;> rw [hg]
      case error => exact ⟨hf, nofun⟩
      case ok =>
        have hw := Site.written_place (L := L) hp
        rw [Site.files_ofMenu] at hw
        exact ⟨hf, fun _ => ⟨settings, content, m, h, hw⟩⟩

theorem run_effects (w : Wording) (L : fs.Files ι) (args : List String) (s : σ) :
    (Invocation.ofArguments? args = none →
      (run w fs args).run s = (.wrongUsage (w.usage args), s)) ∧
    ∀ i, Invocation.ofArguments? args = some i → run w fs args = perform w fs .sequential i ∧
      ∀ machine, Effect w L i s ((perform w fs machine i).run s) := by
  refine ⟨fun h => ?_, fun i h => ⟨?_, fun machine => ?_⟩⟩
  · rw [run, h]
    rfl
  · rw [run, h]
  · obtain ⟨flags, request⟩ := i
    cases request
    case parse menu json      => exact isQuery_parse L.isQuiet menu json s
    case check menus          => exact congrArg Prod.snd (run_check L.isQuiet machine menus)
    case generate menu output => exact effect_generate w L flags menu output s
    all_goals rfl

-- The menu stands where its manifest is put.
theorem run_effects_overwritten :
    let disk : Disk :=
      [(["dist"], .directory), (["dist", "menu.json"], .file "Inicio\nBlog\n".toUTF8)]
    let args := ["generate", "dist/menu.json"]
    let i : Invocation := ⟨⟨none, none⟩, .generate "dist/menu.json" "dist"⟩
    let r := (run default Disk.fileSystem args).run disk
    Invocation.ofArguments? args = some i ∧ r.1.code = 0 ∧ Effect default Disk.files i disk r ∧
      (run default Disk.fileSystem ["generate"]).run disk = (.wrongUsage "", disk) := by
  intro disk args i r
  have hi : Invocation.ofArguments? args = some i := by decide
  have ⟨hr, he⟩ := (run_effects default Disk.files args disk).2 i hi
  have he := he .sequential
  rw [← hr] at he
  exact ⟨hi, by decide +kernel, he,
    (run_effects default Disk.files ["generate"] disk).1 (by decide)⟩

theorem head?_append {text : String} {c : Char} (h : text.toList.head? = some c) (rest : String) :
    (text ++ rest).toList.head? = some c := by
  rw [String.toList_append, List.head?_append, h, Option.some_or]

theorem head?_navigationFile (items : Outline NavItem) :
    (navigationFile items).toList.head? = some '<' :=
  head?_append (head?_append (by decide) _) _

theorem head?_pretty_table (members : List (String × Datum)) :
    (Json.pretty (.table members)).toList.head? = some '\x7b' := by
  rw [Json.pretty, Json.prettyAt, Json.block]
  have ho (rest : String) : ("\x7b" ++ rest).toList.head? = some '\x7b' :=
    head?_append (by decide) rest
  split
  case isTrue  => exact ho _
  case isFalse => exact head?_append (head?_append (head?_append (ho _) _) _) _

theorem toUTF8_ne_of_head?_ne {text text' : String}
    (h : text.toList.head? ≠ text'.toList.head?) : text.toUTF8 ≠ text'.toUTF8 := by
  intro he
  rw [String.toByteArray_inj.mp he] at h
  contradiction

-- Two of the names are further names of a file outside the output directory, and a third one is
-- that of a device. The run succeeds, but it changes that file, where the navigation takes the
-- place of the manifest, and the routes are nowhere.
theorem run_effects_linked :
    let disk : Disk := [
      (["menu.txt"], .file "Inicio\nBlog\n".toUTF8), (["notes.txt"], .file "Blog\n".toUTF8),
      (["dist"], .directory), (["dist", "menu.json"], .link ["notes.txt"]),
      (["dist", "_menu.php"], .link ["notes.txt"]), (["dist", "_urls.php"], .device)]
    let target := Path.ofString "dist"
    let r := (run default Disk.fileSystem ["generate", "menu.txt"]).run disk
    r.1.code = 0 ∧
    r.2.content? (.file ["notes.txt"]) ≠ disk.content? (.file ["notes.txt"]) ∧
    ∃ settings content m,
      Accepted Disk.fileSystem ⟨none, none⟩ (.ofString "menu.txt") disk settings content m ∧
      let manifest := Manifest.build m settings
      (∀ i, r.2.target? (target.child "menu.json") = some i →
        r.2.content? i ≠ some (Json.pretty manifest.toDatum).toUTF8) ∧
      ∀ i, r.2.target? (target.child "_urls.php") = some i →
        r.2.content? i ≠ some (routeFile manifest.languages manifest.routes).toUTF8 := by
  intro disk target r
  have hi : Invocation.ofArguments? ["generate", "menu.txt"] =
      some ⟨⟨none, none⟩, .generate "menu.txt" "dist"⟩ := by decide
  have hr : r = (generate default Disk.fileSystem ⟨none, none⟩ "menu.txt" "dist").run disk := by
    simp only [r, run, hi, perform]
  obtain ⟨hc, hj, hn, hu⟩ : r.1.code = 0 ∧
      r.2.target? (target.child "menu.json") = some (.file ["notes.txt"]) ∧
      r.2.target? (target.child "_menu.php") = some (.file ["notes.txt"]) ∧
      r.2.target? (target.child "_urls.php") = some .device := by
    decide +kernel
  have he := effect_generate default Disk.files ⟨none, none⟩ "menu.txt" "dist" disk
  rw [← hr] at he
  obtain ⟨settings, content, m, ha, _, _, _, ⟨i, hp, ht⟩, _⟩ := he.2.2.2 hc
  cases hp.symm.trans hn
  have ht : r.2.content? (.file ["notes.txt"]) =
      some (navigationFile (Manifest.build m settings).navigation).toUTF8 := by
    simpa [Disk.files] using ht
  refine ⟨hc, ?_, settings, content, m, ha, fun i hi => ?_, fun i hi => ?_⟩
  · rw [ht]
    refine mt Option.some.inj <| toUTF8_ne_of_head?_ne ?_
    rw [head?_navigationFile]
    decide
  · cases hi.symm.trans hj
    rw [ht]
    refine mt Option.some.inj <| toUTF8_ne_of_head?_ne ?_
    rw [head?_navigationFile, Manifest.toDatum, head?_pretty_table]
    decide
  · cases hi.symm.trans hu
    exact (Option.some_ne_none _).symm

end Command

end MenuOutline
