import MenuOutline.Proofs.Datum.Record
import MenuOutline.Settings.Data

namespace MenuOutline.Settings

open Datum Record

variable {ms : Keyed Datum} {s s' : Settings}

theorem read_languages_iff {start l : Languages} (hm : ms.Sorted) :
    (languagesRecord start).read (.table ms) = .ok l ↔
      (∀ k ∈ ms.map (·.1), k ∈ ["primary", "secondary"]) ∧
      Comes readText (ms.lookup "primary") start.primary l.primary ∧
      Comes (readOptional readText) (ms.lookup "secondary") start.secondary l.secondary := by
  rw [read_table_iff ["primary", "secondary"] rfl (by decide) (fun _ => .rfl) hm]
  refine and_congr_right fun _ => ⟨fun h => ?_, fun ⟨hp, hs⟩ => ?_⟩
  · have ⟨primary, hp, h⟩ := (storeMembers_select_cons_iff (·.primary) (fun _ => rfl) rfl).mp h
    have ⟨secondary, hs, h⟩ := (storeMembers_select_cons_iff (·.secondary) (fun _ => rfl) rfl).mp h
    cases h
    exact ⟨hp, hs⟩
  · refine (storeMembers_select_cons_iff (·.primary) (fun _ => rfl) rfl).mpr ⟨_, hp, ?_⟩
    exact (storeMembers_select_cons_iff (·.secondary) (fun _ => rfl) rfl).mpr ⟨_, hs, rfl⟩

theorem read_parse_iff (hm : ms.Sorted) :
    (parseRecord s).read (.table ms) = .ok s' ↔
      (∀ k ∈ ms.map (·.1), k ∈ ["max_depth", "strict_pairing"]) ∧
      ∃ maxDepth strictPairing,
        Comes readSize (ms.lookup "max_depth") s.maxDepth maxDepth ∧
        Comes readBool (ms.lookup "strict_pairing") s.strictPairing strictPairing ∧
        s' = { s with maxDepth, strictPairing } := by
  rw [read_table_iff ["max_depth", "strict_pairing"] rfl (by decide) (fun _ => .rfl)
    hm]
  refine and_congr_right fun _ => ⟨fun h => ?_, fun ⟨_, _, hd, hp, he⟩ => ?_⟩
  · have ⟨depth, hd, h⟩ := (storeMembers_select_cons_iff (·.maxDepth) (fun _ => rfl) rfl).mp h
    have ⟨strict, hp, h⟩ := (storeMembers_select_cons_iff (·.strictPairing) (fun _ => rfl) rfl).mp h
    cases h
    exact ⟨_, _, hd, hp, rfl⟩
  · rw [he]
    refine (storeMembers_select_cons_iff (·.maxDepth) (fun _ => rfl) rfl).mpr ⟨_, hd, ?_⟩
    exact (storeMembers_select_cons_iff (·.strictPairing) (fun _ => rfl) rfl).mpr ⟨_, hp, rfl⟩

theorem read_processing_iff (hm : ms.Sorted) :
    (processingRecord s).read (.table ms) = .ok s' ↔
      (∀ k ∈ ms.map (·.1), k ∈ ["max_processes"]) ∧
      ∃ maxProcesses,
        Comes (readOptional readSize) (ms.lookup "max_processes") s.maxProcesses maxProcesses ∧
        s' = { s with maxProcesses } := by
  rw [read_table_iff ["max_processes"] rfl (by decide) (fun _ => .rfl) hm]
  refine and_congr_right fun _ => ⟨fun h => ?_, fun ⟨_, hp, he⟩ => ?_⟩
  · have ⟨limit, hp, h⟩ := (storeMembers_select_cons_iff (·.maxProcesses) (fun _ => rfl) rfl).mp h
    cases h
    exact ⟨_, hp, rfl⟩
  · rw [he]
    exact (storeMembers_select_cons_iff (·.maxProcesses) (fun _ => rfl) rfl).mpr ⟨_, hp, rfl⟩

theorem read_project_iff {start p : Project} (hm : ms.Sorted) :
    (projectRecord start).read (.table ms) = .ok p ↔
      (∀ k ∈ ms.map (·.1), k ∈ ["business_name", "domain", "email", "phone"]) ∧
      Comes (readOptional readText) (ms.lookup "business_name") start.businessName p.businessName ∧
      Comes (readOptional readText) (ms.lookup "domain") start.domain p.domain ∧
      Comes (readOptional readText) (ms.lookup "email") start.email p.email ∧
      Comes (readOptional readText) (ms.lookup "phone") start.phone p.phone := by
  rw [read_table_iff ["business_name", "domain", "email", "phone"] rfl (by decide)
    (fun _ => .rfl) hm]
  refine and_congr_right fun _ => ⟨fun h => ?_, fun ⟨hb, hd, he, hp⟩ => ?_⟩
  · have ⟨name, hb, h⟩ := (storeMembers_select_cons_iff (·.businessName) (fun _ => rfl) rfl).mp h
    have ⟨domain, hd, h⟩ := (storeMembers_select_cons_iff (·.domain) (fun _ => rfl) rfl).mp h
    have ⟨email, he, h⟩ := (storeMembers_select_cons_iff (·.email) (fun _ => rfl) rfl).mp h
    have ⟨phone, hp, h⟩ := (storeMembers_select_cons_iff (·.phone) (fun _ => rfl) rfl).mp h
    cases h
    exact ⟨hb, hd, he, hp⟩
  · refine (storeMembers_select_cons_iff (·.businessName) (fun _ => rfl) rfl).mpr ⟨_, hb, ?_⟩
    refine (storeMembers_select_cons_iff (·.domain) (fun _ => rfl) rfl).mpr ⟨_, hd, ?_⟩
    refine (storeMembers_select_cons_iff (·.email) (fun _ => rfl) rfl).mpr ⟨_, he, ?_⟩
    exact (storeMembers_select_cons_iff (·.phone) (fun _ => rfl) rfl).mpr ⟨_, hp, rfl⟩

theorem read_validation_iff (hm : ms.Sorted) :
    (validationRecord s).read (.table ms) = .ok s' ↔
      (∀ k ∈ ms.map (·.1), k ∈ ["min_pages"]) ∧
      ∃ minPages,
        Comes readSize (ms.lookup "min_pages") s.minPages minPages ∧ s' = { s with minPages } := by
  rw [read_table_iff ["min_pages"] rfl (by decide) (fun _ => .rfl) hm]
  refine and_congr_right fun _ => ⟨fun h => ?_, fun ⟨_, hp, he⟩ => ?_⟩
  · have ⟨least, hp, h⟩ := (storeMembers_select_cons_iff (·.minPages) (fun _ => rfl) rfl).mp h
    cases h
    exact ⟨_, hp, rfl⟩
  · rw [he]
    exact (storeMembers_select_cons_iff (·.minPages) (fun _ => rfl) rfl).mpr ⟨_, hp, rfl⟩

-- The sections are met in the order of their names. Each decides on its own settings.
theorem storeMembers_sections_iff {ls ps qs js vs : Keyed Datum} (hp : ps.Sorted) (hq : qs.Sorted)
    (hv : vs.Sorted) :
    storeMembers record.fields true s [("languages", .table ls), ("parse", .table ps),
        ("processing", .table qs), ("project", .table js), ("validation", .table vs)] = .ok s' ↔
      (languagesRecord s.languages).read (.table ls) = .ok s'.languages ∧
      ((∀ k ∈ ps.map (·.1), k ∈ ["max_depth", "strict_pairing"]) ∧
        Comes readSize (ps.lookup "max_depth") s.maxDepth s'.maxDepth ∧
        Comes readBool (ps.lookup "strict_pairing") s.strictPairing s'.strictPairing) ∧
      ((∀ k ∈ qs.map (·.1), k ∈ ["max_processes"]) ∧
        Comes (readOptional readSize) (qs.lookup "max_processes") s.maxProcesses s'.maxProcesses) ∧
      (projectRecord s.project).read (.table js) = .ok s'.project ∧
      (∀ k ∈ vs.map (·.1), k ∈ ["min_pages"]) ∧
        Comes readSize (vs.lookup "min_pages") s.minPages s'.minPages := by
  refine ⟨fun h => ?_, fun ⟨hlr, ⟨hpk, hd, hs⟩, ⟨hqk, hm⟩, hjr, hvk, hn⟩ => ?_⟩
  · have ⟨s₁, hs₁, h⟩ := (storeMembers_cons_iff rfl).mp h
    have ⟨s₂, hs₂, h⟩ := (storeMembers_cons_iff rfl).mp h
    have ⟨s₃, hs₃, h⟩ := (storeMembers_cons_iff rfl).mp h
    have ⟨s₄, hs₄, h⟩ := (storeMembers_cons_iff rfl).mp h
    have ⟨s₅, hs₅, h⟩ := (storeMembers_cons_iff rfl).mp h
    obtain ⟨l, hlr, ⟨⟩⟩ := bind_eq_ok_iff.mp hs₁
    obtain ⟨hpk, _, _, hd, hs, rfl⟩ := (read_parse_iff hp).mp hs₂
    obtain ⟨hqk, _, hm, rfl⟩ := (read_processing_iff hq).mp hs₃
    obtain ⟨p, hjr, ⟨⟩⟩ := bind_eq_ok_iff.mp hs₄
    obtain ⟨hvk, _, hn, rfl⟩ := (read_validation_iff hv).mp hs₅
    cases h
    exact ⟨hlr, ⟨hpk, hd, hs⟩, ⟨hqk, hm⟩, hjr, hvk, hn⟩
  · let s₁ := { s with languages := s'.languages }
    let s₂ := { s₁ with maxDepth := s'.maxDepth, strictPairing := s'.strictPairing }
    let s₃ := { s₂ with maxProcesses := s'.maxProcesses }
    let s₄ := { s₃ with project := s'.project }
    have hs₁ : record.fields[0].store s (.table ls) = .ok s₁ := bind_eq_ok_iff.mpr ⟨_, hlr, rfl⟩
    have hs₂ : (parseRecord s₁).read (.table ps) = .ok s₂ :=
      (read_parse_iff hp).mpr ⟨hpk, _, _, hd, hs, rfl⟩
    have hs₃ : (processingRecord s₂).read (.table qs) = .ok s₃ :=
      (read_processing_iff hq).mpr ⟨hqk, _, hm, rfl⟩
    have hs₄ : record.fields[3].store s₃ (.table js) = .ok s₄ := bind_eq_ok_iff.mpr ⟨_, hjr, rfl⟩
    have hs₅ : (validationRecord s₄).read (.table vs) = .ok s' :=
      (read_validation_iff hv).mpr ⟨hvk, _, hn, rfl⟩
    refine (storeMembers_cons_iff rfl).mpr ⟨s₁, hs₁, (storeMembers_cons_iff rfl).mpr ⟨s₂, hs₂, ?_⟩⟩
    refine (storeMembers_cons_iff rfl).mpr ⟨s₃, hs₃, (storeMembers_cons_iff rfl).mpr ⟨s₄, hs₄, ?_⟩⟩
    exact (storeMembers_cons_iff rfl).mpr ⟨s', hs₅, rfl⟩

end MenuOutline.Settings
