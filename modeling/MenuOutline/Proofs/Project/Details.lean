import MenuOutline.Site
import MenuOutline.Proofs.Text.Pattern
import MenuOutline.Proofs.Text.Trim

-- The forms of a project's details, and what is reported of those that do not have theirs. Main
-- statement: a project passes if every detail that is given has its form; otherwise the others are
-- reported, each by its own text alone.

namespace MenuOutline

namespace Project

open Text

variable {p : Project} {s : String} {cs core number : List Char} {c : Char}

-- Two to a hundred characters, without the blanks at either end.
def IsName (cs : List Char) : Prop :=
  ∃ core, IsCore core cs ∧ 2 ≤ core.length ∧ core.length ≤ 100

-- A name, the only at sign, and a host with a point between other characters.
structure IsMailAddress (cs : List Char) : Prop where
  noBlank : ∀ c ∈ cs, isBlank c = false
  oneAt   : cs.count '@' = 1
  parts   : ∃ name host, cs = name ++ '@' :: host ∧ name ≠ [] ∧
    ∃ front ending, host = front ++ '.' :: ending ∧ front ≠ [] ∧ ending ≠ []

-- One plus sign in front is no part of the number.
inductive Dials : List Char → List Char → Prop
  | plus (number : List Char) : Dials ('+' :: number) number
  | plain {number : List Char} : (number.head? ≠ some '+') → Dials number number

-- Nine to fifteen digits, with nothing but blanks, hyphens and parentheses around them.
def IsPhoneNumber (cs : List Char) : Prop :=
  ∃ core number, IsCore core cs ∧ Dials core number ∧
    let digits := number.filter fun c => !(isBlank c || c ∈ ['-', '(', ')'])
    9 ≤ digits.length ∧ digits.length ≤ 15 ∧ ∀ c ∈ digits, c.isDigit

theorem isBusinessName_iff : isBusinessName s ↔ IsName s.toList := by
  rw [isBusinessName, Bool.and_eq_true, decide_eq_true_iff, decide_eq_true_iff]
  constructor
  case mp  => exact fun ⟨hl, hu⟩ => ⟨_, isCore_trim _, hl, hu⟩
  case mpr =>
    intro ⟨core, hc, hl, hu⟩
    rw [isCore_iff.mp hc] at hl hu
    exact ⟨hl, hu⟩

theorem dials_iff : Dials core number ↔ number = dropPlus core := by
  constructor
  case mp =>
    intro h
    cases h
    case plus  => rfl
    case plain h =>
      unfold dropPlus
      split
      case h_1 => simp at h
      case h_2 => rfl
  case mpr =>
    intro h
    subst h
    unfold dropPlus
    split
    case h_1      => exact .plus _
    case h_2 hn   =>
      refine .plain fun h => ?_
      have ⟨cs, hc⟩ := List.head?_eq_some_iff.mp h
      exact hn cs hc

theorem phoneDigits_eq (hc : IsCore core s.toList) (hn : Dials core number) :
    phoneDigits s = number.filter fun c => !(isBlank c || c ∈ ['-', '(', ')']) := by
  have hf : (fun c => !isPhoneFiller c) = fun c => !(isBlank c || c ∈ ['-', '(', ')']) := by
    funext c
    simp [isPhoneFiller, Bool.and_assoc, Bool.beq_eq_decide_eq]
  rw [phoneDigits, hf, dials_iff.mp hn, isCore_iff.mp hc]

theorem isPhone_iff : isPhone s ↔ IsPhoneNumber s.toList := by
  simp only [isPhone, Bool.and_eq_true, decide_eq_true_iff, List.all_eq_true, and_assoc]
  constructor
  case mp =>
    intro h
    have hn := dials_iff.mpr (rfl : dropPlus (trim s.toList) = _)
    have hd := phoneDigits_eq (isCore_trim _) hn
    exact ⟨_, _, isCore_trim _, hn, hd ▸ h⟩
  case mpr =>
    intro ⟨core, number, hc, hn, h⟩
    rwa [phoneDigits_eq hc hn]

-- What a name and a host are made of.
structure AreMailChars (cs : List Char) : Prop where
  noBlank : ∀ c ∈ cs, isBlank c = false
  noAt    : '@' ∉ cs

theorem matches_mailChars_iff : mailChar.plus.Matches cs ↔ cs ≠ [] ∧ AreMailChars cs := by
  rw [mailChar, Pattern.matches_plus_one_iff, List.all_eq_true]
  refine and_congr_right fun _ => ⟨fun h => ⟨fun c hc => ?_, fun hm => ?_⟩, fun h c hc => ?_⟩
  · have h := h c hc
    simp at h
    exact h.left
  · have h := h _ hm
    contradiction
  · have hn : c ≠ '@' := fun he => h.noAt (he ▸ hc)
    simp [h.noBlank c hc, hn]

theorem matches_emailPattern_iff : emailPattern.Matches cs ↔ ∃ name front ending,
    cs = name ++ '@' :: (front ++ '.' :: ending) ∧ (name ≠ [] ∧ AreMailChars name) ∧
      (front ≠ [] ∧ AreMailChars front) ∧ (ending ≠ [] ∧ AreMailChars ending) := by
  simp [emailPattern, Pattern.matches_seq_iff, Pattern.matches_char_iff, matches_mailChars_iff]

theorem isEmail_iff : isEmail s ↔ IsMailAddress s.toList := by
  rw [isEmail, Pattern.accepts_iff, matches_emailPattern_iff]
  generalize s.toList = cs
  constructor
  case mp =>
    intro ⟨name, front, ending, hc, ⟨hn, nc⟩, ⟨hf, fc⟩, he, ec⟩
    have hh : '@' ∉ front ++ '.' :: ending := by simp [fc.noAt, ec.noAt]
    have hb : isBlank '@' = false ∧ isBlank '.' = false := by decide
    refine ⟨?_, ?_, name, front ++ '.' :: ending, hc, hn, front, ending, rfl, hf, he⟩
    · rw [hc]
      simp only [List.forall_mem_append, List.forall_mem_cons]
      exact ⟨nc.noBlank, hb.left, fc.noBlank, hb.right, ec.noBlank⟩
    · rw [hc, List.count_append, List.count_cons_self, List.count_eq_zero_of_not_mem nc.noAt,
        List.count_eq_zero_of_not_mem hh]
  case mpr =>
    intro ⟨hb, ha, name, host, hc, hn, front, ending, hh, hf, he⟩
    subst hc hh
    simp only [List.forall_mem_append, List.forall_mem_cons] at hb
    rw [List.count_append, List.count_cons_self] at ha
    have hn' : '@' ∉ name := List.count_eq_zero.mp (by omega)
    have hh' : '@' ∉ front ++ '.' :: ending := List.count_eq_zero.mp (by omega)
    simp at hh'
    exact ⟨name, front, ending, rfl, ⟨hn, hb.1, hn'⟩, ⟨hf, hb.2.2.1, hh'.1⟩, he, hb.2.2.2.2, hh'.2⟩

-- The details that a project may have, in the order in which they are tested.
inductive Detail where
  | businessName
  | domain
  | email
  | phone
deriving DecidableEq

namespace Detail

def all : List Detail :=
  [businessName, domain, email, phone]

def field : Detail → String
  | businessName => "business_name"
  | domain       => "domain"
  | email        => "email"
  | phone        => "phone"

def given (p : Project) : Detail → Option String
  | businessName => p.businessName
  | domain       => p.domain
  | email        => p.email
  | phone        => p.phone

def HasForm : Detail → String → Prop
  | businessName, s => IsName s.toList
  | domain, s       => domainPattern.Matches s.toList
  | email, s        => IsMailAddress s.toList
  | phone, s        => IsPhoneNumber s.toList

def test : Detail → String → Bool
  | businessName => isBusinessName
  | domain       => isDomain
  | email        => isEmail
  | phone        => isPhone

def fault : Detail → String → ProjectFault
  | businessName, s => .businessName (nameLength s)
  | domain, s       => .domain s
  | email, s        => .email s
  | phone, s        => .phone s

variable {d e : Detail}

theorem mem_all (d : Detail) : d ∈ all := by
  cases d <;> simp [all]

theorem test_iff : d.test s ↔ d.HasForm s := by
  cases d
  case businessName => exact isBusinessName_iff
  case domain       => exact Pattern.accepts_iff
  case email        => exact isEmail_iff
  case phone        => exact isPhone_iff

instance : Decidable (d.HasForm s) :=
  decidable_of_iff _ test_iff

-- A detail that is given without having its form.
def Refused (p : Project) (d : Detail) : Prop :=
  ∃ s ∈ d.given p, ¬d.HasForm s

instance : Decidable (d.Refused p) :=
  inferInstanceAs <| Decidable <| ∃ s ∈ d.given p, ¬d.HasForm s

-- What is reported of a detail.
def faults (p : Project) (d : Detail) : List ProjectFault :=
  faultOf d.test d.fault (d.given p)

theorem faults_eq (p : Project) : p.faults = all.flatMap (faults p) := by
  simp [Project.faults, all, faults, given, test]
  rfl

theorem field_fault : (d.fault s).field = d.field := by
  cases d <;> rfl

theorem faults_of_refused (h : d.Refused p) :
    ∃ s, d.given p = some s ∧ d.faults p = [d.fault s] := by
  have ⟨s, hs, hf⟩ := h
  refine ⟨s, hs, ?_⟩
  rw [faults, hs, faultOf, if_neg (mt test_iff.mp hf)]

theorem faults_eq_nil_iff : d.faults p = [] ↔ ¬d.Refused p := by
  constructor
  case mp =>
    intro h hr
    have ⟨s, _, hf⟩ := faults_of_refused hr
    rw [h] at hf
    contradiction
  case mpr =>
    intro h
    unfold faults faultOf
    split
    case h_1 s hs => exact if_pos <| test_iff.mpr <| Decidable.not_not.mp fun hf => h ⟨s, hs, hf⟩
    case h_2      => rfl

theorem map_field_faults :
    (d.faults p).map (·.field) = if d.Refused p then [d.field] else [] := by
  by_cases h : d.Refused p
  case pos =>
    have ⟨s, _, hf⟩ := faults_of_refused h
    rw [hf, if_pos h, List.map_singleton, field_fault]
  case neg => rw [faults_eq_nil_iff.mpr h, if_neg h, List.map_nil]

theorem field_eq_of_mem {f : ProjectFault} (h : f ∈ d.faults p) : f.field = d.field := by
  have h := List.mem_map_of_mem h (f := (·.field))
  rw [map_field_faults] at h
  split at h
  case isTrue  => exact List.mem_singleton.mp h
  case isFalse => contradiction

theorem field_injective : Function.Injective field := by
  intro d e h
  cases d <;> cases e <;> first | rfl | (simp [field] at h)

theorem filter_field_faults :
    (e.faults p).filter (·.field = d.field) = if e = d then d.faults p else [] := by
  split
  case isTrue h =>
    subst h
    exact List.filter_eq_self.mpr fun f hf => decide_eq_true (field_eq_of_mem hf)
  case isFalse h =>
    refine List.filter_eq_nil_iff.mpr fun f hf hd => h <| field_injective ?_
    rw [← field_eq_of_mem hf, of_decide_eq_true hd]

end Detail

-- The part of the report that speaks of one detail.
theorem filter_faults (p : Project) (d : Detail) :
    p.faults.filter (·.field = d.field) = d.faults p := by
  rw [Detail.faults_eq, List.filter_flatMap]
  simp only [Detail.filter_field_faults]
  cases d <;> simp [Detail.all]

theorem map_field_faults (p : Project) :
    p.faults.map (·.field) = (Detail.all.filter (·.Refused p)).map Detail.field := by
  rw [Detail.faults_eq, List.map_flatMap]
  simp only [Detail.map_field_faults]
  generalize Detail.all = ds
  induction ds
  case nil          => rfl
  case cons d ds hi => by_cases h : d.Refused p <;> simp [h, hi]

theorem faults_eq_nil_iff (p : Project) : p.faults = [] ↔ ∀ d : Detail, ¬d.Refused p := by
  simp [Detail.faults_eq, Detail.faults_eq_nil_iff, Detail.mem_all]

theorem check_eq_ok_iff : p.check = .ok () ↔ p.faults = [] := by
  simp [check]

-- A project passes if no detail is refused. Otherwise the refused details are reported, all of
-- them and in their order, and what is reported of a detail is fixed by its own text.
theorem check_reports_refused (p : Project) :
    (p.check = .ok () ↔ ∀ (d : Detail), ∀ s ∈ d.given p, d.HasForm s) ∧
    (p.check ≠ .ok () → p.check = .error (.project p.faults)) ∧
    p.faults.map (·.field) = (Detail.all.filter (·.Refused p)).map Detail.field ∧
    ∀ (d : Detail) q, d.given p = d.given q →
      p.faults.filter (·.field = d.field) = q.faults.filter (·.field = d.field) := by
  refine ⟨?_, ?_, map_field_faults p, fun d q h => ?_⟩
  · rw [check_eq_ok_iff, faults_eq_nil_iff]
    simp [Detail.Refused]
  · simp +contextual [check]
  · rw [filter_faults, filter_faults, Detail.faults, h, Detail.faults]

example : (faults ⟨some " x ", some "host", some "a@b@c.d", some "+12 34"⟩).map (·.field) =
    ["business_name", "domain", "email", "phone"] := by
  decide +kernel

end Project

end MenuOutline
