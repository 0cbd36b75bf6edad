import Mathlib.Data.List.Basic

namespace MenuOutline.Text

variable {σ τ : Type}

-- A text is read one character at a time: each character leads to another state, and may complete
-- tokens.
def run (step : σ → Char → σ × List τ) (s : σ) : List Char → σ × List τ
  | [] => (s, [])
  | c :: cs =>
    let next := step s c
    let rest := run step next.1 cs
    (rest.1, next.2 ++ rest.2)

-- From one state to another, with the tokens completed on the way.
def Runs (step : σ → Char → σ × List τ) (s : σ) (cs : List Char) (s' : σ) (ts : List τ) : Prop :=
  run step s cs = (s', ts)

instance [DecidableEq σ] [DecidableEq τ] (step : σ → Char → σ × List τ) (s : σ) (cs : List Char)
    (s' : σ) (ts : List τ) : Decidable (Runs step s cs s' ts) :=
  inferInstanceAs (Decidable (_ = _))

namespace Runs

variable {step : σ → Char → σ × List τ} {s s' s'' : σ} {c : Char} {cs ds : List Char}
  {ts us : List τ}

theorem of_run (step : σ → Char → σ × List τ) (s : σ) (cs : List Char) :
    Runs step s cs (run step s cs).1 (run step s cs).2 :=
  rfl

theorem refl (s : σ) : Runs step s [] s [] :=
  rfl

-- The step: one more character.
theorem cons (h : step s c = (s', ts)) (hr : Runs step s' cs s'' us) :
    Runs step s (c :: cs) s'' (ts ++ us) := by
  rw [Runs, run, h]
  exact congrArg (fun rest => (rest.1, ts ++ rest.2)) hr

-- The run: one text after the other.
theorem append (h : Runs step s cs s' ts) (h' : Runs step s' ds s'' us) :
    Runs step s (cs ++ ds) s'' (ts ++ us) := by
  induction cs generalizing s ts
  case nil =>
    cases h
    exact h'
  case cons c cs hi =>
    cases h
    rw [List.append_assoc]
    exact cons rfl (hi rfl)

-- A run that does nothing but remember what it has read.
theorem grow {f : List Char → σ} (h : ∀ c ∈ cs, ∀ read, step (f read) c = (f (read ++ [c]), []))
    (read : List Char) : Runs step (f read) cs (f (read ++ cs)) [] := by
  induction cs generalizing read
  case nil =>
    rw [List.append_nil]
    exact refl _
  case cons c cs hi =>
    have ⟨hc, hcs⟩ := List.forall_mem_cons.mp h
    rw [List.append_cons]
    exact cons (hc read) (hi hcs _)

-- A run along texts that each lead back to where they start.
theorem flatMap {α : Type} {f : α → List Char} {g : α → List τ} {as : List α}
    (h : ∀ a ∈ as, Runs step s (f a) s (g a)) : Runs step s (as.flatMap f) s (as.flatMap g) := by
  induction as
  case nil => exact refl s
  case cons a as hi =>
    have ⟨ha, has⟩ := List.forall_mem_cons.mp h
    exact ha.append (hi has)

-- The same for texts that are put together as strings.
theorem appendString {a b : String} (h : Runs step s a.toList s' ts)
    (h' : Runs step s' b.toList s'' us) : Runs step s (a ++ b).toList s'' (ts ++ us) :=
  String.toList_append ▸ h.append h'

theorem join {α : Type} {f : α → String} {g : α → List τ} {as : List α}
    (h : ∀ a ∈ as, Runs step s (f a).toList s (g a)) :
    Runs step s (String.join (as.map f)).toList s (as.flatMap g) := by
  rw [String.toList_join, List.flatMap_map]
  exact flatMap h

theorem tokens_eq (h : Runs step s cs s' ts) : (run step s cs).2 = ts :=
  congrArg Prod.snd h

end Runs

end MenuOutline.Text
