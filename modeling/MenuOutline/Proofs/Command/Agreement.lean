import MenuOutline.FileSystem.Disk
import MenuOutline.Proofs.Command.Query

namespace MenuOutline

variable {σ : Type} {fs : FileSystem (StateM σ)} {s : Settings} {content : String}

theorem Menu.checkSize_of_lt {least : Nat} {m : Menu} (h : m.pageCount < least) :
    m.checkSize least = .error (.tooFewPages least m.pageCount) :=
  if_pos h

theorem Menu.checkSize_of_le {least : Nat} {m : Menu} (h : least ≤ m.pageCount) :
    m.checkSize least = .ok () :=
  if_neg <| Nat.not_lt.mpr h

theorem Project.check_of_faults_eq {p : Project} (h : p.faults = []) : p.check = .ok () := by
  rw [check, h]
  rfl

theorem Project.check_of_faults_ne {p : Project} (h : p.faults ≠ []) :
    p.check = .error (.project p.faults) :=
  if_neg <| mt List.isEmpty_iff.mp h

namespace Menu

-- Why there is no site of a text. A reason counts only where those before it do not hold.
inductive Rejected (s : Settings) (content : String) : SiteError → Prop
  | unreadable {e : MenuError} :
    (parse s.parseOptions content = .error e) → Rejected s content (.menu e)
  | tooSmall {m : Menu} :
    (parse s.parseOptions content = .ok m) → (m.pageCount < s.minPages) →
    Rejected s content (.check <| .tooFewPages s.minPages m.pageCount)
  | badProject {m : Menu} :
    (parse s.parseOptions content = .ok m) → (s.minPages ≤ m.pageCount) →
    (s.project.faults ≠ []) → Rejected s content (.check <| .project s.project.faults)

structure Passes (s : Settings) (content : String) (m : Menu) : Prop where
  parses  : parse s.parseOptions content = .ok m
  size    : s.minPages ≤ m.pageCount
  project : s.project.faults = []

theorem rejected_or_passes (s : Settings) (content : String) :
    (∃ e, Rejected s content e) ∨ (∃ m, Passes s content m) := by
  cases hp : parse s.parseOptions content
  case error => exact .inl ⟨_, .unreadable hp⟩
  case ok m =>
    cases Nat.lt_or_ge m.pageCount s.minPages
    case inl hs => exact .inl ⟨_, .tooSmall hp hs⟩
    case inr hs =>
      by_cases hf : s.project.faults = []
      case pos => exact .inr ⟨m, hp, hs, hf⟩
      case neg => exact .inl ⟨_, .badProject hp hs hf⟩

-- The checks of a text in their order, with the first failure told in some way.
def judge {ε : Type} (tell : SiteError → ε) (s : Settings) (content : String) : Except ε Menu := do
  let menu ← (parse s.parseOptions content).mapError (tell <| .menu ·)
  (menu.checkSize s.minPages).mapError (tell <| .check ·)
  s.project.check.mapError (tell <| .check ·)
  return menu

theorem judge_of_parse {ε : Type} {tell : SiteError → ε} {m : Menu}
    (h : parse s.parseOptions content = .ok m) :
    judge tell s content = (do
      (m.checkSize s.minPages).mapError (tell <| .check ·)
      s.project.check.mapError (tell <| .check ·)
      return m) := by
  rw [judge, h]
  rfl

theorem Rejected.judge_eq {ε : Type} {e : SiteError} (h : Rejected s content e)
    (tell : SiteError → ε) : judge tell s content = .error (tell e) := by
  cases h
  case unreadable hp       => rw [judge, hp]; rfl
  case tooSmall hp hs      => rw [judge_of_parse hp, checkSize_of_lt hs]; rfl
  case badProject hp hs hf =>
    rw [judge_of_parse hp, checkSize_of_le hs, Project.check_of_faults_ne hf]
    rfl

theorem Passes.judge_eq {ε : Type} {m : Menu} (h : Passes s content m) (tell : SiteError → ε) :
    judge tell s content = .ok m := by
  rw [judge_of_parse h.parses, checkSize_of_le h.size, Project.check_of_faults_eq h.project]
  rfl

theorem ofContent_eq_judge (s : Settings) (content : String) :
    ofContent s content = judge id s content :=
  rfl

end Menu

theorem Command.checkContent_eq_judge (s : Settings) (content : String) :
    checkContent s content = Menu.judge SiteError.message s content :=
  rfl

namespace FileSystem

-- Files of these names can be written into a directory one after the other, whatever their texts.
def Takes (fs : FileSystem (StateM σ)) (dir : Path) : List String → σ → Prop
  | [], _ => True
  | name :: names, disk => ∀ text, ∃ disk',
    (fs.writeText (dir.child name) text).run disk = (.ok (), disk') ∧ fs.Takes dir names disk'

-- A directory is there or can be made, and takes the files of a site.
def IsWritable (fs : FileSystem (StateM σ)) (dir : Path) (disk : σ) : Prop :=
  ∃ disk', (fs.makeDirectories dir).run disk = (.ok (), disk') ∧
    fs.Takes dir ["menu.json", "_diccionario.php", "_urls.php", "_menu.php"] disk'

end FileSystem

namespace Site

variable {menu output : Path} {disk disk' : σ} {site : Site} {e : SiteError}

theorem exists_writeAll (files : List (String × String))
    (h : fs.Takes output (files.map (·.1)) disk) :
    ∃ disk', (writeAll fs output files).run.run disk = (.ok (), disk') := by
  induction files generalizing disk
  case nil => exact ⟨disk, rfl⟩
  case cons file files hi =>
    have ⟨disk₁, hw, ht⟩ := h file.2
    have ⟨disk₂, hf⟩ := hi ht
    exists disk₂
    rw [writeAll, run_bindExcept_of_run <| run_liftM_of_run hw]
    exact hf

theorem exists_place (h : fs.IsWritable output disk) (site : Site) :
    ∃ disk', (place fs output site).run.run disk = (.ok (), disk') := by
  have ⟨disk₁, hm, ht⟩ := h
  have ⟨disk₂, hf⟩ := exists_writeAll site.files ht
  exists disk₂
  rw [place, run_bindExcept_of_run <| run_liftM_of_run hm]
  exact hf

-- Nothing is written for a text without a site.
theorem generate_of_error (hr : (fs.readText menu).run disk = (.ok content, disk'))
    (h : ofContent s content = .error e) :
    (generate fs s menu output).run.run disk = (.error e, disk') := by
  rw [generate, run_bindExcept_of_run <| run_liftM_of_run hr]
  simp only [h]
  rfl

theorem exists_generate (hr : (fs.readText menu).run disk = (.ok content, disk'))
    (hw : fs.IsWritable output disk') (h : ofContent s content = .ok site) :
    ∃ disk'', (generate fs s menu output).run.run disk = (.ok site, disk'') := by
  have ⟨disk₁, hp⟩ := exists_place hw site
  have hs : (liftM (ofContent s content) : ExceptT SiteError (StateM σ) Site).run.run disk' =
      (.ok site, disk') := by
    rw [h]
    rfl
  exists disk₁
  rw [generate, run_bindExcept_of_run <| run_liftM_of_run hr]
  simp only
  rw [run_bindExcept_of_run hs, run_bindExcept_of_run hp]
  rfl

end Site

namespace Command

variable {menu : String} {output : Path} {disk disk' : σ}

theorem checkMenu_of_read (h : (fs.readText (.ofString menu)).run disk = (.ok content, disk')) :
    (checkMenu fs menu s).run disk = (checkContent s content, disk') := by
  rw [checkMenu, run_bind_of_run h]
  rfl

-- A menu that can be read passes the check if and only if its site is generated into a directory
-- that can be written. Otherwise both give the same reason.
theorem check_agrees_with_generate
    (hr : (fs.readText (.ofString menu)).run disk = (.ok content, disk'))
    (hw : fs.IsWritable output disk') :
    let checked := ((checkMenu fs menu s).run disk).1
    let generated := ((Site.generate fs s (.ofString menu) output).run.run disk).1
    (∀ m, checked = .ok m ↔ ∃ site, generated = .ok site ∧ site.menu = m) ∧
    (∀ message, checked = .error message ↔ ∃ e, generated = .error e ∧ e.message = message) ∧
    (∀ e, generated = .error e ↔ Menu.Rejected s content e) := by
  rw [checkMenu_of_read hr, checkContent_eq_judge]
  have he : ∀ {e}, Menu.Rejected s content e → Site.ofContent s content = .error e := by
    intro e h
    rw [Site.ofContent, Menu.ofContent_eq_judge, h.judge_eq]
    rfl
  cases Menu.rejected_or_passes s content
  case inl h =>
    have ⟨e, h⟩ := h
    rw [Site.generate_of_error hr (he h), h.judge_eq]
    refine ⟨by simp, by simp [eq_comm], fun e' => ⟨fun h' => ?_, fun h' => ?_⟩⟩
    · cases h'
      exact h
    · exact (he h).symm.trans (he h')
  case inr h =>
    have ⟨m, h⟩ := h
    have hs : Site.ofContent s content = .ok (.ofMenu s m) := by
      rw [Site.ofContent, Menu.ofContent_eq_judge, h.judge_eq]
      rfl
    have ⟨disk₁, hg⟩ := Site.exists_generate hr hw hs
    rw [hg, h.judge_eq]
    refine ⟨by simp [Site.ofMenu, eq_comm], by simp, fun e => ⟨by simp, fun h' => ?_⟩⟩
    have := hs.symm.trans (he h')
    simp at this

-- The menu is too small and the phone number is none: both times the size is what is told.
theorem check_agrees_with_generate_small :
    let s := { Settings.default with project := { Project.none with phone := some "12" } }
    let disk : Disk := [(["menu.txt"], .file "Inicio\n".toUTF8)]
    let checked := ((checkMenu Disk.fileSystem "menu.txt" s).run disk).1
    let generated :=
      ((Site.generate Disk.fileSystem s (.ofString "menu.txt") (.ofString "dist")).run.run disk).1
    (Disk.fileSystem.readText (.ofString "menu.txt")).run disk = (.ok "Inicio\n", disk) ∧
      Disk.fileSystem.IsWritable (.ofString "dist") disk ∧ s.project.faults ≠ [] ∧
      (∀ m, checked = .ok m ↔ ∃ site, generated = .ok site ∧ site.menu = m) ∧
      (∀ message, checked = .error message ↔ ∃ e, generated = .error e ∧ e.message = message) ∧
      (∀ e, generated = .error e ↔ Menu.Rejected s "Inicio\n" e) := by
  have hr : (Disk.fileSystem.readText (.ofString "menu.txt")).run
      [(["menu.txt"], .file "Inicio\n".toUTF8)] = (.ok "Inicio\n", _) := rfl
  have hw : Disk.fileSystem.IsWritable (.ofString "dist")
      [(["menu.txt"], .file "Inicio\n".toUTF8)] := by
    refine ⟨[(["menu.txt"], .file "Inicio\n".toUTF8), (["dist"], .directory)], rfl, ?_⟩
    exact fun _ => ⟨_, rfl, fun _ => ⟨_, rfl, fun _ => ⟨_, rfl, fun _ => ⟨_, rfl, trivial⟩⟩⟩⟩
  exact ⟨hr, hw, by decide, check_agrees_with_generate hr hw⟩

end Command

end MenuOutline
