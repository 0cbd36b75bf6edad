import MenuOutline.Datum.Record
import MenuOutline.Proofs.Except
import MenuOutline.Proofs.Keyed

namespace MenuOutline.Datum

variable {ρ α : Type} {read : Datum → Decoded α}

-- The value that a field comes to have: the one that is read for it, or the one from which it
-- started.
def Comes (read : Datum → Decoded α) (given : Option Datum) (start a : α) : Prop :=
  given.elim (.ok start) read = .ok a

theorem atKey_eq_ok_iff {key : String} {d : Datum} {a : α} :
    atKey key read d = .ok a ↔ read d = .ok a :=
  mapError_eq_ok_iff

-- A field that does not depend on what an update changes.
def Field.Ignores (u : ρ → ρ) (f : Field ρ) : Prop :=
  ∀ r d, f.store (u r) d = (f.store r d).map u

theorem field_ignores {name : String} {set : ρ → α → ρ} {u : ρ → ρ}
    (h : ∀ r a, set (u r) a = u (set r a)) : (field name read set).Ignores u := by
  intro r d
  simp only [field]
  cases read d
  case error => rfl
  case ok a  => exact congrArg Except.ok (h r a)

namespace Record

variable {record : Record ρ} {fields : List (Field ρ)} {strict : Bool} {key : String} {d : Datum}
  {names : List String} {ms : Keyed Datum} {r r' : ρ}

theorem storeMembers_cons_iff {f : Field ρ} (hf : fields.find? (·.name == key) = some f) :
    storeMembers fields strict r ((key, d) :: ms) = .ok r' ↔
      ∃ r₁, f.store r d = .ok r₁ ∧ storeMembers fields strict r₁ ms = .ok r' := by
  simp only [storeMembers, hf, bind_eq_ok_iff, atKey_eq_ok_iff]

-- A field that may be there or not.
theorem storeMembers_select_cons_iff {set : ρ → α → ρ} (get : ρ → α)
    (hs : ∀ r, set r (get r) = r)
    (hf : fields.find? (·.name == key) = some (field key read set)) :
    storeMembers fields strict r (ms.select (key :: names)) = .ok r' ↔
      ∃ a, Comes read (ms.lookup key) (get r) a ∧
        storeMembers fields strict (set r a) (ms.select names) = .ok r' := by
  rw [Keyed.select]
  cases ms.lookup key
  case none => simp [Comes, hs]
  case some d =>
    refine (storeMembers_cons_iff hf).trans ?_
    simp only [field, map_eq_ok_iff, Comes, Option.elim_some]
    constructor
    · rintro ⟨_, ⟨a, ha, rfl⟩, h⟩
      exact ⟨a, ha, h⟩
    · rintro ⟨a, ha, h⟩
      exact ⟨_, ⟨a, ha, rfl⟩, h⟩

theorem mem_names_of_storeMembers (h : storeMembers fields true r ms = .ok r') :
    ∀ k ∈ ms.map (·.1), k ∈ fields.map (·.name) := by
  induction ms generalizing r
  case nil => exact nofun
  case cons m ms hi =>
    obtain ⟨key, d⟩ := m
    cases hf : fields.find? (·.name == key)
    case none => simp [storeMembers, hf, mismatch] at h
    case some f =>
      have ⟨r₁, _, h⟩ := (storeMembers_cons_iff hf).mp h
      refine List.forall_mem_cons.mpr ⟨List.mem_map.mpr ⟨f, List.mem_of_find?_eq_some hf, ?_⟩, hi h⟩
      simpa using List.find?_some hf

-- The members of a table are read in the order of their keys, and none may be of no field.
theorem read_table_iff (names : List String) (hr : record.strict)
    (hn : names.Pairwise (· < ·))
    (hf : ∀ k, k ∈ record.fields.map (·.name) ↔ k ∈ names) (hm : ms.Sorted) :
    record.read (.table ms) = .ok r ↔ (∀ k ∈ ms.map (·.1), k ∈ names) ∧
      storeMembers record.fields true record.start (ms.select names) = .ok r := by
  rw [read, hr]
  refine ⟨fun h => ?_, fun ⟨hk, h⟩ => by rwa [hm.select_eq hn hk] at h⟩
  have hk : ∀ k ∈ ms.map (·.1), k ∈ names :=
    fun k hk => (hf k).mp (mem_names_of_storeMembers h k hk)
  exact ⟨hk, by rwa [hm.select_eq hn hk]⟩

section Ignores

variable {u : ρ → ρ}

theorem storeMembers_of_ignores
    (h : ∀ k ∈ ms.map (·.1), ∀ f, fields.find? (·.name == k) = some f → f.Ignores u) :
    storeMembers fields strict (u r) ms = (storeMembers fields strict r ms).map u := by
  induction ms generalizing r
  case nil => rfl
  case cons m ms hi =>
    obtain ⟨key, d⟩ := m
    have ⟨hf, h⟩ := List.forall_mem_cons.mp h
    simp only [storeMembers]
    cases hk : fields.find? (·.name == key)
    case none =>
      cases strict
      case true  => rfl
      case false => exact hi h
    case some f =>
      simp only [atKey, hf f hk r d]
      cases f.store r d
      case error => rfl
      case ok r' => exact hi h

theorem storeItems_of_ignores {ds : List Datum} (h : ∀ f ∈ fields, f.Ignores u) :
    storeItems (u r) fields ds = (storeItems r fields ds).map u := by
  induction fields generalizing r ds
  case nil => rfl
  case cons f fields hi =>
    have ⟨hf, h⟩ := List.forall_mem_cons.mp h
    cases ds
    case nil => rfl
    case cons d ds =>
      simp only [storeItems, hf r d]
      cases f.store r d
      case error => rfl
      case ok r' => exact hi h

-- What no field of a record depends on may as well be changed after the record is read.
theorem read_of_ignores (record : Record ρ) (h : ∀ f ∈ record.fields, f.Ignores u) (d : Datum) :
    { record with start := u record.start }.read d = (record.read d).map u := by
  cases d
  case table ms => exact storeMembers_of_ignores fun _ _ f hf => h f (List.mem_of_find?_eq_some hf)
  case list ds =>
    simp only [read, storeItems_of_ignores h]
    cases storeItems record.start record.fields ds
    case error => rfl
    case ok r =>
      cases checkLength record.name record.fields.length record.required ds.length <;> rfl
  all_goals rfl

end Ignores

end Record

end MenuOutline.Datum
