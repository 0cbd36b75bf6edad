import MenuOutline.Manifest.Page
import Mathlib.Data.List.Pairwise
import Mathlib.Data.List.Perm.Basic
import Mathlib.Logic.Function.Conjugate

namespace MenuOutline.Datum

mutual

-- The same datum up to the order of the members of its tables.
inductive Reordered : Datum → Datum → Prop
  | refl (d : Datum) : Reordered d d
  | list {ds es : List Datum} : (List.Forall₂ Reordered ds es) → Reordered (.list ds) (.list es)
  | table {ms ns os : List (String × Datum)} :
    (List.Forall₂ ReorderedMember ms ns) → (ns.Perm os) → Reordered (.table ms) (.table os)

inductive ReorderedMember : String × Datum → String × Datum → Prop
  | intro {d e : Datum} (key : String) : (Reordered d e) → ReorderedMember (key, d) (key, e)

end

theorem Reordered.exists_items {ds : List Datum} {d : Datum} (h : Reordered (.list ds) d) :
    ∃ es, d = .list es ∧ List.Forall₂ Reordered ds es :=
  match h with
  | .refl _  => ⟨ds, rfl, List.forall₂_same.mpr fun d _ => .refl d⟩
  | .list hs => ⟨_, rfl, hs⟩

theorem Reordered.exists_members {ms : List (String × Datum)} {d : Datum}
    (h : Reordered (.table ms) d) :
    ∃ ns os, d = .table os ∧ List.Forall₂ ReorderedMember ms ns ∧ ns.Perm os :=
  match h with
  | .refl _      => ⟨ms, ms, rfl, List.forall₂_same.mpr fun _ _ => .intro _ <| .refl _, .refl _⟩
  | .table hs hp => ⟨_, _, rfl, hs, hp⟩

variable {α ρ : Type} {read : Datum → Decoded α} {d : Datum} {a : α}

-- A datum is read as a value, in whatever order its members come.
def ReadAs (read : Datum → Decoded α) (d : Datum) (a : α) : Prop :=
  ∀ e, d.Reordered e → read e = .ok a

theorem readAs_readText (s : String) : ReadAs readText (.text s) s := by
  rintro _ ⟨⟩
  rfl

theorem readAs_readBool (b : Bool) : ReadAs readBool (.bool b) b := by
  rintro _ ⟨⟩
  rfl

theorem readAs_readSize (n : Nat) : ReadAs readSize (.int n) n := by
  rintro _ ⟨⟩
  rw [readSize, if_neg <| Int.not_lt.mpr <| Int.natCast_nonneg n, Int.toNat_natCast]

theorem readAs_readOptional (o : Option String) :
    ReadAs (readOptional readText) (ofOptional o) o := by
  cases o <;> rintro _ ⟨⟩ <;> rfl

section Members

variable {step : ρ → String × Datum → Decoded ρ} {us : List (ρ → ρ)}
  {ms ns os : List (String × Datum)}

-- What a member does to a record, whatever stands in the record.
def Stores (step : ρ → String × Datum → Decoded ρ) (m : String × Datum) (u : ρ → ρ) : Prop :=
  ∀ n, ReorderedMember m n → ∀ r, step r n = .ok (u r)

theorem forall₂_of_stores (h : List.Forall₂ (Stores step) ms us)
    (hm : List.Forall₂ ReorderedMember ms ns) :
    List.Forall₂ (fun n u => ∀ r, step r n = .ok (u r)) ns us := by
  induction hm generalizing us
  case nil =>
    cases h
    exact .nil
  case cons hm _ hi =>
    cases h
    case cons hs h => exact .cons (hs _ hm) (hi h)

theorem foldlM_of_forall₂ (h : List.Forall₂ (fun n u => ∀ r, step r n = .ok (u r)) ns us) (r : ρ) :
    ns.foldlM step r = .ok (us.foldl (fun r u => u r) r) := by
  induction h generalizing r
  case nil => rfl
  case cons h _ hi =>
    rw [List.foldlM_cons, h r]
    exact hi _

theorem commute_iff {u v : ρ → ρ} : Function.Commute u v ↔ ∀ r, u (v r) = v (u r) :=
  Iff.rfl

instance : Std.Symm (Function.Commute : (ρ → ρ) → (ρ → ρ) → Prop) where
  symm _ _ := .symm

-- Members that do not get into each other's way are stored in any order.
theorem foldlM_of_stores (h : List.Forall₂ (Stores step) ms us)
    (hc : us.Pairwise Function.Commute) (hm : List.Forall₂ ReorderedMember ms ns)
    (hp : ns.Perm os) (r : ρ) : os.foldlM step r = .ok (us.foldl (fun r u => u r) r) := by
  have ⟨vs, hv, hq⟩ := List.perm_comp_forall₂ hp.symm (forall₂_of_stores h hm)
  have hc : ∀ u ∈ us, ∀ v ∈ us, Function.Commute u v :=
    hc.forall_of_forall fun u _ => .refl u
  rw [foldlM_of_forall₂ hv]
  refine congrArg _ <| hq.foldl_eq' (fun u hu v hv r => ?_) r
  exact hc v (hq.mem_iff.mp hv) u (hq.mem_iff.mp hu) r

end Members

namespace Record

variable {record : Record ρ}

def storeMember (record : Record ρ) (r : ρ) (m : String × Datum) : Decoded ρ :=
  match record.fields.find? (·.name == m.1) with
  | some f => atKey m.1 (f.store r) m.2
  | none =>
    if record.strict then mismatch (.unknownField m.1 (record.fields.map (·.name))) else .ok r

theorem storeMembers_eq_foldlM (r : ρ) (ms : List (String × Datum)) :
    storeMembers record.fields record.strict r ms = ms.foldlM record.storeMember r := by
  induction ms generalizing r
  case nil => rfl
  case cons m ms hi =>
    rw [storeMembers, List.foldlM_cons, storeMember]
    cases record.fields.find? (·.name == m.1)
    case some => simp only [hi]
    case none =>
      dsimp only
      by_cases hs : record.strict
      case pos =>
        rw [if_pos hs, if_pos hs]
        rfl
      case neg =>
        rw [if_neg hs, if_neg hs]
        exact hi r

theorem stores_field {key : String} {set : ρ → α → ρ}
    (hf : record.fields.find? (·.name == key) = some (field key read set)) (h : ReadAs read d a) :
    Stores record.storeMember (key, d) (set · a) := by
  rintro _ ⟨_, he⟩ r
  simp only [storeMember, hf, atKey, field, h _ he]
  rfl

-- A member that is left out when it is absent.
theorem stores_optionalMember {key : String} {set : ρ → Option String → ρ}
    (hf : record.fields.find? (·.name == key) = some (field key (readOptional readText) set))
    (o : Option String) :
    List.Forall₂ (Stores record.storeMember) (optionalMember key o)
      (o.toList.map fun s r => set r (some s)) := by
  cases o
  case none   => exact .nil
  case some s => exact .cons (stores_field hf <| readAs_readOptional <| some s) .nil

theorem readAs_read {ms : List (String × Datum)} {us : List (ρ → ρ)} {r : ρ}
    (h : List.Forall₂ (Stores record.storeMember) ms us) (hc : us.Pairwise Function.Commute)
    (hu : us.foldl (fun r u => u r) record.start = r) :
    ReadAs record.read (.table ms) r := by
  intro d hd
  have ⟨ns, os, hd, hm, hp⟩ := hd.exists_members
  rw [hd, read, storeMembers_eq_foldlM, foldlM_of_stores h hc hm hp, hu]

end Record

namespace Nest

variable {nest : Nest ρ α} {below : Outline α}

def storeMember (nest : Nest ρ α) (r : ρ × Outline α) (m : String × Datum) :
    Decoded (ρ × Outline α) :=
  match nest.slots.find? (·.name == m.1) with
  | some (.own f) => (atKey m.1 (f.store r.1) m.2).map (·, r.2)
  | some (.below _) => ((readOutline nest m.2).mapError (·.under m.1)).map (r.1, ·)
  | none => .ok r

theorem storeMembers_eq_foldlM (r : ρ × Outline α) (ms : List (String × Datum)) :
    storeMembers nest r.1 r.2 ms = ms.foldlM nest.storeMember r := by
  induction ms generalizing r
  case nil => rfl
  case cons m ms hi =>
    rw [storeMembers, List.foldlM_cons, storeMember]
    cases nest.slots.find? (·.name == m.1)
    case none => exact hi r
    case some slot =>
      cases slot
      case own f =>
        dsimp only
        cases atKey m.1 (f.store r.1) m.2
        case error => rfl
        case ok r' => exact hi (r', r.2)
      case below =>
        dsimp only
        cases (readOutline nest m.2).mapError (·.under m.1)
        case error => rfl
        case ok below => exact hi (r.1, below)

theorem stores_own {β : Type} {read : Datum → Decoded β} {b : β} {key : String} {set : ρ → β → ρ}
    (hf : nest.slots.find? (·.name == key) = some (.own <| field key read set))
    (h : ReadAs read d b) : Stores nest.storeMember (key, d) fun r => (set r.1 b, r.2) := by
  rintro _ ⟨_, he⟩ r
  simp only [storeMember, hf, atKey, field, h _ he]
  rfl

theorem stores_below {key : String} (hf : nest.slots.find? (·.name == key) = some (.below key))
    (h : ReadAs nest.readOutline d below) :
    Stores nest.storeMember (key, d) fun r => (r.1, below) := by
  rintro _ ⟨_, he⟩ r
  simp only [storeMember, hf, h _ he]
  rfl

theorem readAs_readNode {ms : List (String × Datum)} {us : List (ρ × Outline α → ρ × Outline α)}
    {r : ρ} (h : List.Forall₂ (Stores nest.storeMember) ms us) (hc : us.Pairwise Function.Commute)
    (hu : us.foldl (fun r u => u r) (nest.start, .nil) = (r, below)) (hf : nest.finish r = .ok a) :
    ReadAs nest.readNode (.table ms) (a, below) := by
  intro d hd
  have ⟨ns, os, hd, hm, hp⟩ := hd.exists_members
  have hs : nest.storeMembers nest.start .nil os = _ :=
    storeMembers_eq_foldlM (nest.start, .nil) os
  rw [foldlM_of_stores h hc hm hp, hu] at hs
  rw [hd, readNode, hs]
  change nest.finish r >>= (fun a => pure (a, below)) = _
  rw [hf]
  rfl

-- The entries of an outline are read one after the other, each with what is below it.
theorem readAs_readOutline {encode : α → Datum → Datum}
    (h : ∀ a below, ReadAs nest.readOutline (.list <| ofOutline encode below) below →
      ReadAs nest.readNode (encode a <| .list <| ofOutline encode below) (a, below))
    (o : Outline α) : ReadAs nest.readOutline (.list <| ofOutline encode o) o := by
  induction o
  case nil =>
    intro d hd
    have ⟨es, hd, hs⟩ := hd.exists_items
    cases hs
    rw [hd, readOutline, readNodes]
  case cons a below after hb ha =>
    intro d hd
    have ⟨es, hd, hs⟩ := hd.exists_items
    cases hs
    case cons e es he hs =>
      have hn := h a below hb e he
      have ha := ha (.list es) (.list hs)
      rw [readOutline] at ha
      rw [hd, readOutline, readNodes, hn]
      simp only [ha]
      rfl

end Nest

end MenuOutline.Datum
