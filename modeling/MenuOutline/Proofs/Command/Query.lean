import MenuOutline.Command
import Mathlib.Data.List.Basic

namespace MenuOutline

variable {σ α β ε : Type}

section Runs

variable {a : α} {s s' : σ}

theorem run_bind_of_run {x : StateM σ α} (h : x.run s = (a, s')) (f : α → StateM σ β) :
    (x >>= f).run s = (f a).run s' := by
  rw [StateT.run_bind, h]
  rfl

theorem run_bindExcept_of_run {x : ExceptT ε (StateM σ) α} (h : x.run.run s = (.ok a, s'))
    (f : α → ExceptT ε (StateM σ) β) : (x >>= f).run.run s = (f a).run.run s' := by
  rw [ExceptT.run_bind, run_bind_of_run h]

theorem run_bindExcept_of_error {x : ExceptT ε (StateM σ) α} {e : ε}
    (h : x.run.run s = (.error e, s')) (f : α → ExceptT ε (StateM σ) β) :
    (x >>= f).run.run s = (.error e, s') := by
  rw [ExceptT.run_bind, run_bind_of_run h]
  rfl

theorem run_adapt_of_run {x : ExceptT ε (StateM σ) α} {r : Except ε α} {ε' : Type}
    (h : x.run.run s = (r, s')) (f : ε → ε') : (x.adapt f).run.run s = (r.mapError f, s') := by
  have hm : (x.adapt f).run = Except.mapError f <$> x.run := rfl
  rw [hm, StateT.run_map, h]
  rfl

theorem run_liftM_of_run {x : StateM σ α} (h : x.run s = (a, s')) :
    (liftM x : ExceptT ε (StateM σ) α).run.run s = (.ok a, s') := by
  rw [ExceptT.run_liftM, StateT.run_map, h]
  rfl

end Runs

-- A query answers and leaves everything as it is.
def IsQuery (x : StateM σ α) : Prop :=
  ∀ s, (x.run s).2 = s

def answer (s : σ) (x : StateM σ α) : α :=
  (x.run s).1

namespace IsQuery

theorem run_eq {x : StateM σ α} (h : IsQuery x) (s : σ) : x.run s = (answer s x, s) :=
  Prod.ext rfl (h s)

theorem pure (a : α) : IsQuery (Pure.pure a : StateM σ α) :=
  fun _ => rfl

theorem run_bind {x : StateM σ α} (h : IsQuery x) (f : α → StateM σ β) (s : σ) :
    (x >>= f).run s = (f (answer s x)).run s :=
  run_bind_of_run (h.run_eq s) f

theorem bind {x : StateM σ α} {f : α → StateM σ β} (hx : IsQuery x) (hf : ∀ a, IsQuery (f a)) :
    IsQuery (x >>= f) := by
  intro s
  rw [hx.run_bind]
  exact hf _ s

theorem run_mapM {f : α → StateM σ β} (h : ∀ a, IsQuery (f a)) (as : List α) (s : σ) :
    (as.mapM f).run s = (as.map (answer s <| f ·), s) := by
  induction as
  case nil => rfl
  case cons a as hi =>
    rw [List.mapM_cons, (h a).run_bind, run_bind_of_run hi]
    rfl

theorem liftM {x : StateM σ α} (h : IsQuery x) :
    IsQuery (MonadLiftT.monadLift x : ExceptT ε (StateM σ) α).run :=
  h.bind fun _ => pure _

theorem bindExcept {x : ExceptT ε (StateM σ) α} {f : α → ExceptT ε (StateM σ) β}
    (hx : IsQuery x.run) (hf : ∀ a, IsQuery (f a).run) : IsQuery (x >>= f).run := by
  rw [ExceptT.run_bind]
  refine hx.bind fun r => ?_
  cases r
  case error => exact pure _
  case ok a  => exact hf a

theorem adapt {x : ExceptT ε (StateM σ) α} {ε' : Type} (h : IsQuery x.run) (f : ε → ε') :
    IsQuery (x.adapt f).run := by
  intro s
  rw [run_adapt_of_run (h.run_eq s)]

end IsQuery

-- Looking for a file and reading it change nothing.
structure FileSystem.IsQuiet (fs : FileSystem (StateM σ)) : Prop where
  isThere  : ∀ p, IsQuery (fs.isThere p)
  readText : ∀ p, IsQuery (fs.readText p)

namespace FileSystem.IsQuiet

variable {fs : FileSystem (StateM σ)}

theorem loadOverlay (h : fs.IsQuiet) (dir : Path) : IsQuery (Settings.loadOverlay fs dir).run := by
  refine .bindExcept (.liftM <| h.isThere _) fun found => ?_
  cases found
  case false => exact .pure _
  case true =>
    refine .bindExcept (.liftM <| h.readText _) fun text => ?_
    cases text
    case error => exact .pure _
    case ok content => exact .bindExcept (.pure <| Settings.parseOverlay content) fun _ => .pure _

theorem load (h : fs.IsQuiet) (menu : Path) : IsQuery (Settings.load fs menu).run :=
  .bindExcept (h.loadOverlay _) fun overlay =>
    .pure ((Settings.resolve overlay).mapError ConfigError.settings)

theorem loadWithFlags (h : fs.IsQuiet) (flags : Settings.LanguageFlags) (menu : Path) :
    IsQuery (Settings.loadWithFlags fs flags menu).run :=
  .bindExcept (h.load menu) fun s => .pure (Settings.applyFlags flags s)

theorem settingsOf (h : fs.IsQuiet) (w : Wording) (flags : Settings.LanguageFlags)
    (menu : String) : IsQuery (Command.settingsOf w fs flags menu) :=
  (h.loadWithFlags flags _).bind fun _ => .pure _

theorem outcome (h : fs.IsQuiet) (menu : String) (settings : Except String Settings) :
    IsQuery (Command.outcome fs menu settings) := by
  cases settings
  case error => exact .pure _
  case ok =>
    refine (h.readText _).bind fun text => ?_
    cases text <;> exact .pure _

end FileSystem.IsQuiet

namespace Machine

variable {tasks : List (StateM σ α)} {task : StateM σ α}

theorem run_runInOrder (h : ∀ t ∈ tasks, IsQuery t) (order : List Nat) (s : σ) :
    (runInOrder tasks order).run s =
      (order.filterMap fun i => tasks[i]?.map fun t => (i, answer s t), s) := by
  induction order
  case nil => rfl
  case cons i order hi =>
    cases ht : tasks[i]?
    case none => simp [runInOrder, ht, hi]
    case some t =>
      have hq := h t <| List.mem_of_getElem? ht
      simp only [runInOrder, ht, hq.run_bind, run_bind_of_run hi, List.filterMap_cons,
        Option.map_some]
      rfl

theorem lookup_answers {order : List Nat} {i : Nat} (h : tasks[i]? = some task) (s : σ)
    (hi : i ∈ order) :
    (order.filterMap fun j => tasks[j]?.map fun t => (j, answer s t)).lookup i =
      some (answer s task) := by
  induction order
  case nil => contradiction
  case cons j order hj =>
    by_cases he : i = j
    case pos => simp [← he, h]
    case neg =>
      have hj := hj <| (List.mem_cons.mp hi).resolve_left he
      cases ht : tasks[j]? <;> simp [ht, List.lookup_cons, beq_false_of_ne he, hj]

theorem filterMap_getElem?_range (as : List α) :
    (List.range as.length).filterMap (as[·]?) = as := by
  induction as
  case nil => rfl
  case cons a as ha => simpa [List.range_succ_eq_map, List.filterMap_map, Function.comp_def]

-- Queries are answered in their places, whatever the machine does first.
theorem run_runAll (h : ∀ t ∈ tasks, IsQuery t) (machine : Machine) (workers : Nat) (s : σ) :
    (machine.runAll workers tasks).run s = (tasks.map (answer s), s) := by
  rw [runAll, StateT.run_bind, run_runInOrder h]
  refine Prod.ext ?_ rfl
  calc
    _ = (List.range tasks.length).filterMap fun i => tasks[i]?.map (answer s) := by
      refine List.filterMap_congr fun i hi => ?_
      have ht := List.getElem?_eq_getElem <| List.mem_range.mp hi
      rw [lookup_answers ht s <| (machine.order_perm ..).mem_iff.mpr hi, ht]
      rfl
    _ = tasks.map (answer s) := by
      rw [← List.map_filterMap, filterMap_getElem?_range]

end Machine

end MenuOutline
