import MenuOutline.FileSystem.Disk
import MenuOutline.Proofs.Command.Query
import MenuOutline.Proofs.Text.Quoted

namespace MenuOutline

variable {σ : Type} {w : Wording} {fs : FileSystem (StateM σ)} {flags : Settings.LanguageFlags}
  {disk : σ}

namespace RunResult

theorem lines_append (ls ls' : List String) : lines (ls ++ ls') = lines ls ++ lines ls' := by
  rw [lines, List.map_append, String.join_append]
  rfl

theorem lines_flatMap {α : Type} (f : α → List String) (as : List α) :
    lines (as.flatMap f) = String.join (as.map fun a => lines (f a)) := by
  induction as
  case nil => rfl
  case cons a as hi =>
    rw [List.flatMap_cons, lines_append, hi, List.map_cons, String.join_cons]

end RunResult

namespace Command

variable (w fs flags disk)

-- The settings of a menu as the files stand, and the outcome of its check under them.
def settingsAt (menu : String) : Except String Settings :=
  answer disk (settingsOf w fs flags menu)

def resultAt (menu : String) : Except String Menu :=
  answer disk (outcome fs menu (settingsAt w fs flags disk menu))

def reportAt (menu : String) : List String :=
  reportOn menu (settingsAt w fs flags disk menu) (resultAt w fs flags disk menu)

def fails (menu : String) : Bool :=
  !(resultAt w fs flags disk menu).isOk

variable {w fs flags disk}

theorem conclude_output (output : String) (failures menus : Nat) :
    (conclude output failures menus).output = output := by
  unfold conclude
  split <;> rfl

theorem conclude_code_eq_zero_iff {output : String} {failures menus : Nat} :
    (conclude output failures menus).code = 0 ↔ failures = 0 := by
  unfold conclude
  split <;> simp [RunResult.success, RunResult.failure, *]

theorem conclude_of_ne_zero {failures : Nat} (h : failures ≠ 0) (output : String) (menus : Nat) :
    conclude output failures menus = {
      code := 1
      output
      errors := "Error: \"" ++ toString failures ++ " of " ++ toString menus ++
        " menus failed\"\n" } := by
  have hv : (toString failures ++ " of " ++ toString menus ++ " menus failed").toList.all
      Text.Quoted.isVerbatim := by
    simp only [String.toList_append, List.all_append, Text.Quoted.all_isVerbatim_toString]
    decide
  rw [conclude, if_neg h, Text.quoted_of_isVerbatim hv]
  simp [RunResult.failure, ← String.toList_inj]

-- What is found out about each menu decides on everything, and nothing is changed by it.
theorem run_check (h : fs.IsQuiet) (machine : Machine) (menus : List String) :
    (check w fs machine flags menus).run disk =
      (conclude (RunResult.lines <| menus.flatMap (reportAt w fs flags disk))
        (menus.countP (fails w fs flags disk)) menus.length, disk) := by
  let settings := menus.map (settingsAt w fs flags disk)
  have hs : (menus.mapM (settingsOf w fs flags)).run disk = (settings, disk) :=
    IsQuery.run_mapM (h.settingsOf w flags) menus disk
  have hr (workers : Nat) :
      (machine.runAll workers (menus.zipWith (outcome fs) settings)).run disk =
        (menus.map (resultAt w fs flags disk), disk) := by
    rw [List.zipWith_map_right, List.zipWith_self, Machine.run_runAll (by simp [h.outcome]),
      List.map_map]
    rfl
  have hz : (menus.zip settings).zip (menus.map (resultAt w fs flags disk)) = menus.map fun menu =>
      ((menu, settingsAt w fs flags disk menu), resultAt w fs flags disk menu) := by
    have hm : menus.zip settings =
        menus.map fun menu => (menu, settingsAt w fs flags disk menu) := by
      simpa using List.zip_map' (l := menus) (f := id) (g := settingsAt w fs flags disk)
    rw [hm, List.zip_map']
  rw [check, run_bind_of_run hs, run_bind_of_run (hr _)]
  simp only [hz, List.map_map, List.countP_map]
  rfl

-- A menu checked alone fails if and only if its check does.
theorem code_check_singleton (h : fs.IsQuiet) (machine : Machine) (menu : String) :
    ((check w fs machine flags [menu]).run disk).1.code = 0 ↔
      fails w fs flags disk menu = false := by
  rw [run_check h, conclude_code_eq_zero_iff]
  simp [List.countP_cons]

theorem output_check_singleton (h : fs.IsQuiet) (machine : Machine) (menu : String) :
    ((check w fs machine flags [menu]).run disk).1.output =
      RunResult.lines (reportAt w fs flags disk menu) := by
  rw [run_check h, conclude_output, List.flatMap_singleton]

-- Checking menus together comes down to checking each of them alone, on any machine: what is
-- printed is put together in their order, and the failures are counted.
theorem check_eq_sum (h : fs.IsQuiet) (w : Wording) (machine machine' : Machine)
    (flags : Settings.LanguageFlags) (menus : List String) (disk : σ) :
    let together := (perform w fs machine ⟨flags, .check menus⟩).run disk
    let alone := menus.map fun menu => (perform w fs machine' ⟨flags, .check [menu]⟩).run disk
    let failed := alone.countP (·.1.code ≠ 0)
    together.1.output = String.join (alone.map (·.1.output)) ∧
    (together.1.code = 0 ↔ ∀ r ∈ alone, r.1.code = 0) ∧
    (together.1.code ≠ 0 → together.1.code = 1 ∧ together.1.errors =
      "Error: \"" ++ toString failed ++ " of " ++ toString menus.length ++
        " menus failed\"\n") ∧
    together.2 = disk ∧ (∀ r ∈ alone, r.2 = disk) := by
  have hf : (menus.map fun menu => (check w fs machine' flags [menu]).run disk).countP
      (·.1.code ≠ 0) = menus.countP (fails w fs flags disk) := by
    rw [List.countP_map]
    refine List.countP_congr fun menu _ => ?_
    simp [code_check_singleton h]
  simp only [perform, run_check h machine menus, hf]
  refine ⟨?output, ?code, ?errors, trivial, ?state⟩
  case output =>
    rw [conclude_output, RunResult.lines_flatMap, List.map_map]
    congr 1
    exact List.map_congr_left fun menu _ => (output_check_singleton h machine' menu).symm
  case code =>
    rw [conclude_code_eq_zero_iff]
    simp [code_check_singleton h]
  case errors =>
    intro hc
    rw [conclude_of_ne_zero <| mt conclude_code_eq_zero_iff.mpr hc]
    exact ⟨rfl, rfl⟩
  case state =>
    simp [run_check h]

-- A menu that is good, one whose settings are refused and one that is missing, the last one first.
theorem check_eq_sum_mixed :
    let backwards : Machine := {
      cores := 2
      order := fun _ tasks => (List.range tasks).reverse
      order_perm := fun _ _ => List.reverse_perm _ }
    let flags : Settings.LanguageFlags := { primary := none, secondary := some "ca" }
    let menus := ["uno.txt", "mal/menu.txt", "falta.txt"]
    let disk : Disk := [
      (["uno.txt"], .file "Inicio\nBlog\n".toUTF8), (["mal"], .directory),
      (["mal", "menu.txt"], .file "Inicio\n".toUTF8),
      (["mal", "config.toml"], .file "[parse]\nmax_depth = 0\n".toUTF8)]
    let together := (perform default Disk.fileSystem backwards ⟨flags, .check menus⟩).run disk
    let alone := menus.map fun menu =>
      (perform default Disk.fileSystem .sequential ⟨flags, .check [menu]⟩).run disk
    let failed := alone.countP (·.1.code ≠ 0)
    Disk.fileSystem.IsQuiet ∧ alone.map (·.1.code) = [0, 1, 1] ∧
    together.1.output = String.join (alone.map (·.1.output)) ∧
    (together.1.code = 0 ↔ ∀ r ∈ alone, r.1.code = 0) ∧
    (together.1.code ≠ 0 → together.1.code = 1 ∧ together.1.errors =
      "Error: \"" ++ toString failed ++ " of " ++ toString menus.length ++
        " menus failed\"\n") ∧
    together.2 = disk ∧ (∀ r ∈ alone, r.2 = disk) := by
  have h : Disk.fileSystem.IsQuiet := ⟨fun _ _ => rfl, fun _ _ => rfl⟩
  exact ⟨h, by decide +kernel, check_eq_sum h _ _ .sequential _ _ _⟩

end Command

end MenuOutline
