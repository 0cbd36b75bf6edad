import MenuOutline.FileSystem.Disk
import MenuOutline.Proofs.Except
import MenuOutline.Proofs.FileSystem.Files

namespace MenuOutline.Disk

variable {disk disk' : Disk} {place place' dir : Place} {name : String} {names : List String}
  {n : Node} {p : Path}

section Put

theorem lookup_filter_ne {key : List String} (h : key ≠ names) :
    (disk.filter (·.1 ≠ names)).lookup key = disk.lookup key := by
  induction disk
  case nil => rfl
  case cons m disk hi =>
    obtain ⟨k, n⟩ := m
    by_cases hk : k = names
    case pos => simp [hk, List.lookup_cons, beq_false_of_ne h, ← hi]
    case neg => simp [hk, List.lookup_cons, ← hi]

theorem lookup_filter_self : (disk.filter (·.1 ≠ names)).lookup names = none := by
  refine List.lookup_eq_none_iff.mpr fun m hm => bne_iff_ne.mpr ?_
  have hn : m.1 ≠ names := by simpa using (List.mem_filter.mp hm).2
  exact hn.symm

theorem ne_nil_of_node? (h : disk.node? (.inside names) ≠ some .directory) : names ≠ [] := by
  rintro rfl
  exact h rfl

theorem node?_put_self (h : names ≠ []) : (disk.put names n).node? (.inside names) = some n := by
  obtain ⟨name, names, rfl⟩ := List.exists_cons_of_ne_nil h
  simp only [node?, put, List.lookup_append, lookup_filter_self]
  simp

theorem node?_put_of_ne (h : place ≠ .inside names) :
    (disk.put names n).node? place = disk.node? place := by
  cases place
  case outside => rfl
  case inside key =>
    cases key
    case nil => rfl
    case cons k key =>
      have hk : k :: key ≠ names := mt (congrArg Place.inside) h
      simp only [node?, put, List.lookup_append, lookup_filter_ne hk]
      simp [List.lookup_cons, beq_false_of_ne hk]

end Put

section Paths

-- One goes on from a directory to something that is there.
theorem enter_eq_ok_iff : disk.enter place name = .ok place' ↔
    disk.node? place = some .directory ∧ name.utf8ByteSize ≤ 255 ∧
      ¬(place = .outside ∧ isName name) ∧ (disk.node? place').isSome ∧
      step place name = place' := by
  rw [enter]
  cases disk.node? place
  case none => simp
  case some n =>
    cases n
    case file | link | device => simp
    case directory =>
      simp only
      split
      case isTrue h => simp; omega
      case isFalse h =>
        split
        case isTrue ho => simp [ho]
        case isFalse ho =>
          split
          case isTrue hs =>
            simp only [Except.ok.injEq]
            refine ⟨?_, fun ⟨_, _, _, _, he⟩ => he⟩
            rintro rfl
            exact ⟨trivial, Nat.not_lt.mp h, ho, hs, rfl⟩
          case isFalse hs =>
            simp only [reduceCtorEq, false_iff]
            rintro ⟨_, _, _, ht, rfl⟩
            exact hs ht

-- A place that is reached is there.
theorem isSome_of_enterAll (hs : (disk.node? place).isSome)
    (h : disk.enterAll place names = .ok dir) : (disk.node? dir).isSome := by
  induction names generalizing place
  case nil =>
    cases h
    exact hs
  case cons name names hi =>
    have ⟨_, he, h⟩ := bind_eq_ok_iff.mp h
    exact hi (enter_eq_ok_iff.mp he).2.2.2.1 h

theorem isSome_of_start (h : start p = .ok place) : (disk.node? place).isSome := by
  rw [start] at h
  split at h
  case isTrue => cases h
  case isFalse =>
    split at h
    case isTrue => cases h
    case isFalse =>
      cases h
      split <;> rfl

-- What a path names, whether or not it is there: something in a directory that is.
theorem locateNew_eq_ok_iff : disk.locateNew p = .ok place ↔
    ∃ s dir, start p = .ok s ∧ disk.enterAll s p.steps.dropLast = .ok dir ∧
      disk.node? dir = some .directory ∧ (p.steps.getLastD ".").utf8ByteSize ≤ 255 ∧
      ¬(dir = .outside ∧ isName (p.steps.getLastD ".")) ∧
      step dir (p.steps.getLastD ".") = place := by
  rw [locateNew]
  simp only [bind_eq_ok_iff, ← exists_and_left]
  refine exists_congr fun s => exists_congr fun dir => and_congr_right fun hs => ?_
  refine and_congr_right fun hd => ?_
  have ht := isSome_of_enterAll (isSome_of_start hs) hd
  generalize p.steps.getLastD "." = name
  obtain ⟨n, hn⟩ := Option.isSome_iff_exists.mp ht
  cases n
  case file | link | device => simp [enter, hn]
  case directory =>
    by_cases hl : 255 < name.utf8ByteSize
    case pos => simp [enter, hn, hl, Nat.not_le.mpr hl]
    case neg =>
      have hl' := Nat.not_lt.mp hl
      by_cases ho : dir = .outside ∧ isName name
      case pos =>
        obtain ⟨rfl, ho⟩ := ho
        simp [enter, node?, hl, ho]
      case neg =>
        by_cases hs : (disk.node? (step dir name)).isSome
        case pos => simp [enter, hn, hl, hl', ho, hs, pure, Except.pure]
        case neg =>
          have ho' : dir ≠ .outside := by
            rintro rfl
            exact hs rfl
          simp [enter, hn, hl, hl', ho', hs, pure, Except.pure]

-- What is there is the place that is meant, unless it is a further name of a file.
theorem origin_eq_ok_iff : disk.origin place = .ok place' ↔
    (∃ names content, disk.node? place = some (.link names) ∧
      disk.node? (.inside names) = some (.file content) ∧ .inside names = place') ∨
    (∀ names, disk.node? place ≠ some (.link names)) ∧ place = place' := by
  rw [origin]
  split
  case h_1 names hl =>
    split
    case h_1 content hf => simp [hl, hf]
    case h_2 hf =>
      simp only [hl, reduceCtorEq, false_iff]
      rintro (⟨_, content, ⟨⟩, hc, _⟩ | ⟨hn, _⟩)
      · exact hf content hc
      · exact hn names rfl
  case h_2 hn =>
    have hn : ∀ names, disk.node? place ≠ some (.link names) := hn
    simp [hn]

theorem not_link_of_origin (h : disk.origin place = .ok place') :
    disk.node? place' ≠ some (.link names) := by
  obtain ⟨_, _, _, hf, rfl⟩ | ⟨hn, rfl⟩ := origin_eq_ok_iff.mp h
  · simp [hf]
  · exact hn names

end Paths

-- What may become of a node: a file may get another content.
inductive Kept : Node → Node → Prop
  | refl (n : Node) : Kept n n
  | file (content content' : ByteArray) : Kept (.file content) (.file content')

-- What is there stays what it is, and nothing but directories and files comes to it.
structure Keeps (disk disk' : Disk) : Prop where
  kept {place : Place} {n : Node} :
    (disk.node? place = some n) → ∃ n', disk'.node? place = some n' ∧ Kept n n'
  new {place : Place} {n : Node} : (disk.node? place = none) → (disk'.node? place = some n) →
    n = .directory ∨ ∃ content, n = .file content

namespace Keeps

theorem directory (hk : Keeps disk disk') (h : disk.node? place = some .directory) :
    disk'.node? place = some .directory := by
  have ⟨_, h, hn⟩ := hk.kept h
  cases hn
  exact h

theorem there (hk : Keeps disk disk') (h : (disk.node? place).isSome) :
    (disk'.node? place).isSome := by
  have ⟨_, h⟩ := Option.isSome_iff_exists.mp h
  have ⟨_, h, _⟩ := hk.kept h
  exact Option.isSome_of_eq_some h

-- Links and devices neither come nor go.
theorem node?_iff (hk : Keeps disk disk') (hd : n ≠ .directory)
    (hf : ∀ content, n ≠ .file content) :
    disk'.node? place = some n ↔ disk.node? place = some n := by
  cases h : disk.node? place
  case none =>
    simp only [reduceCtorEq, iff_false]
    intro h'
    cases hk.new h h'
    case inl hn => exact hd hn
    case inr hn => exact hf _ hn.choose_spec
  case some m =>
    have ⟨_, h', hm⟩ := hk.kept h
    rw [h']
    cases hm
    case refl => rfl
    case file => simp [(hf _).symm]

theorem enter_eq (hk : Keeps disk disk') (h : disk.enter place name = .ok place') :
    disk'.enter place name = .ok place' :=
  have ⟨hd, hl, ho, ht, hs⟩ := enter_eq_ok_iff.mp h
  enter_eq_ok_iff.mpr ⟨hk.directory hd, hl, ho, hk.there ht, hs⟩

theorem enterAll_eq (hk : Keeps disk disk') (h : disk.enterAll place names = .ok dir) :
    disk'.enterAll place names = .ok dir := by
  induction names generalizing place
  case nil => exact h
  case cons name names hi =>
    have ⟨_, he, h⟩ := bind_eq_ok_iff.mp h
    exact bind_eq_ok_iff.mpr ⟨_, hk.enter_eq he, hi h⟩

theorem locateNew_eq (hk : Keeps disk disk') (h : disk.locateNew p = .ok place) :
    disk'.locateNew p = .ok place :=
  have ⟨_, _, hs, he, hd, h⟩ := locateNew_eq_ok_iff.mp h
  locateNew_eq_ok_iff.mpr ⟨_, _, hs, hk.enterAll_eq he, hk.directory hd, h⟩

theorem origin_eq (hk : Keeps disk disk') (h : disk.origin place = .ok place') :
    disk'.origin place = .ok place' := by
  have hl {place names} :
      disk'.node? place = some (.link names) ↔ disk.node? place = some (.link names) :=
    hk.node?_iff (by simp) (by simp)
  refine origin_eq_ok_iff.mpr ?_
  obtain ⟨names, _, hn, hf, hp⟩ | ⟨hn, hp⟩ := origin_eq_ok_iff.mp h
  · obtain ⟨_, hf, hc⟩ := hk.kept hf
    cases hc <;> exact .inl ⟨names, _, hl.mpr hn, hf, hp⟩
  · exact .inr ⟨fun names h => hn names (hl.mp h), hp⟩

theorem refl : Keeps disk disk where
  kept h   := ⟨_, h, .refl _⟩
  new h h' := by simp [h] at h'

theorem trans {disk'' : Disk} (h : Keeps disk disk') (h' : Keeps disk' disk'') :
    Keeps disk disk'' where
  kept hn := by
    have ⟨_, hn, hk⟩ := h.kept hn
    have ⟨_, hn, hk'⟩ := h'.kept hn
    refine ⟨_, hn, ?_⟩
    cases hk <;> cases hk' <;> constructor
  new {place _} hn hn' := by
    cases hp : disk'.node? place
    case none => exact h'.new hp hn'
    case some =>
      have ⟨_, hs, hk⟩ := h'.kept hp
      cases hs.symm.trans hn'
      obtain rfl | ⟨_, rfl⟩ := h.new hn hp <;> cases hk <;> simp

theorem put (hd : names ≠ []) (hk : ∀ m, disk.node? (.inside names) = some m → Kept m n)
    (hn : n = .directory ∨ ∃ content, n = .file content) : Keeps disk (disk.put names n) where
  kept {place m} h := by
    by_cases hp : place = .inside names
    case pos =>
      subst hp
      exact ⟨n, node?_put_self hd, hk m h⟩
    case neg => exact ⟨m, (node?_put_of_ne hp).trans h, .refl m⟩
  new {place m} h h' := by
    by_cases hp : place = .inside names
    case pos =>
      rw [hp, node?_put_self hd] at h'
      exact Option.some.inj h' ▸ hn
    case neg =>
      rw [node?_put_of_ne hp, h] at h'
      contradiction

end Keeps

-- What a path may lead to: a device, or the file of certain names.
inductive Target where
  | file (names : List String)
  | device
deriving DecidableEq

-- What is meant by a path, whether or not it is there.
def target? (disk : Disk) (p : Path) : Option Target :=
  match disk.locateNew p >>= disk.origin with
  | .ok (.inside names) =>
    some (if disk.node? (.inside names) = some .device then .device else .file names)
  | _ => none

def content? (disk : Disk) : Target → Option ByteArray
  | .device => none
  | .file names =>
    match disk.node? (.inside names) with
    | some (.file content) => some content
    | _ => none

variable {t t' : Target} {content : ByteArray}

theorem target?_eq (hl : disk.locateNew p = .ok place)
    (ho : disk.origin place = .ok (.inside names)) : disk.target? p =
      some (if disk.node? (.inside names) = some .device then .device else .file names) := by
  have h : (disk.locateNew p >>= disk.origin) = .ok (.inside names) :=
    bind_eq_ok_iff.mpr ⟨place, hl, ho⟩
  simp only [target?, h]

theorem Keeps.target?_eq (hk : Keeps disk disk') (h : disk.target? p = some t) :
    disk'.target? p = some t := by
  unfold target? at h
  split at h
  case h_1 names hp =>
    obtain ⟨_, hl, ho⟩ := bind_eq_ok_iff.mp hp
    have hd : disk'.node? (.inside names) = some .device ↔ _ := hk.node?_iff (by simp) (by simp)
    rw [Disk.target?_eq (hk.locateNew_eq hl) (hk.origin_eq ho)]
    simpa only [hd] using h
  case h_2 => contradiction

theorem content?_put_of_ne (h : t ≠ .file names) :
    (disk.put names n).content? t = disk.content? t := by
  cases t
  case device => rfl
  case file names' =>
    have hn : Place.inside names' ≠ .inside names := by simpa using h
    rw [content?, node?_put_of_ne hn, content?]

-- Directories are made where nothing is.
structure Grows (disk disk' : Disk) : Prop where
  keeps : Keeps disk disk'
  content?_eq : disk'.content? = disk.content?

namespace Grows

theorem refl : Grows disk disk :=
  ⟨.refl, rfl⟩

theorem trans {disk'' : Disk} (h : Grows disk disk') (h' : Grows disk' disk'') :
    Grows disk disk'' :=
  ⟨h.keeps.trans h'.keeps, h'.content?_eq.trans h.content?_eq⟩

theorem put (hn : disk.node? (.inside names) = none) : Grows disk (disk.put names .directory) := by
  have hd : names ≠ [] := by
    rintro rfl
    contradiction
  refine ⟨.put hd (by simp [hn]) (.inl rfl), funext fun t => ?_⟩
  by_cases h : t = .file names
  case pos => simp [h, content?, node?_put_self hd, hn]
  case neg => exact content?_put_of_ne h

theorem makeDirectory (h : disk.makeDirectory p = .ok disk') : Grows disk disk' := by
  have ⟨place, _, h⟩ := bind_eq_ok_iff.mp h
  cases place
  case outside => cases h
  case inside names =>
    simp only at h
    split at h
    case isTrue => cases h
    case isFalse hn =>
      cases h
      exact .put (by simpa using hn)

-- A directory that cannot be made is good enough if it is there.
theorem of_isDirectory {e : FileError}
    (h : (if disk.isDirectory p then .ok disk else .error e : Except FileError Disk) = .ok disk') :
    Grows disk disk' := by
  split at h
  case isTrue  => cases h; exact .refl
  case isFalse => cases h

theorem makeDirectoriesAt {fuel : Nat} (h : disk.makeDirectoriesAt p fuel = .ok disk') :
    Grows disk disk' := by
  induction fuel generalizing disk disk' p
  case zero => cases h
  case succ fuel hi =>
    rw [Disk.makeDirectoriesAt] at h
    split at h
    case isTrue => cases h; exact .refl
    case isFalse =>
      split at h
      case h_1 hm => cases h; exact .makeDirectory hm
      case h_2 =>
        split at h
        case h_1 => cases h
        case h_2 parent _ =>
          have ⟨disk₁, hd, h⟩ := bind_eq_ok_iff.mp h
          refine (hi hd).trans ?_
          split at h
          case h_1 hm => cases h; exact .makeDirectory hm
          case h_2    => exact .of_isDirectory h
      case h_3 => exact .of_isDirectory h

end Grows

-- What is written is lost in a device, or becomes the content of a file.
inductive Writes (disk : Disk) (content : ByteArray) : Target → Disk → Prop
  | device : Writes disk content .device disk
  | file {names : List String} :
    (names ≠ []) → (∀ n, disk.node? (.inside names) = some n → Kept n (.file content)) →
    Writes disk content (.file names) (disk.put names (.file content))

namespace Writes

theorem keeps (h : Writes disk content t disk') : Keeps disk disk' := by
  cases h
  case device     => exact .refl
  case file hn hk => exact .put hn hk (.inr ⟨content, rfl⟩)

theorem content?_of_ne (h : Writes disk content t disk') (hn : t' ≠ t) :
    disk'.content? t' = disk.content? t' := by
  cases h
  case device => rfl
  case file   => exact content?_put_of_ne hn

theorem content?_self (h : Writes disk content t disk') :
    t = .device ∨ disk'.content? t = some content := by
  cases h
  case device    => exact .inl rfl
  case file hn _ => exact .inr <| by rw [content?, node?_put_self hn]

end Writes

theorem exists_writes (h : disk.write p content = .ok disk') :
    ∃ t, disk.target? p = some t ∧ Writes disk content t disk' := by
  have ⟨_, hl, h⟩ := bind_eq_ok_iff.mp h
  have ⟨place, ho, h⟩ := bind_eq_ok_iff.mp h
  cases place
  case outside => cases h
  case inside names =>
    rw [target?_eq hl ho]
    simp only at h
    split at h
    case h_1 => cases h
    case h_2 hd =>
      cases h
      exact ⟨.device, by rw [if_pos hd], .device⟩
    case h_3 hn hd =>
      cases h
      refine ⟨.file names, by rw [if_neg hd], .file (ne_nil_of_node? hn) fun n h => ?_⟩
      cases n
      case directory => exact absurd h hn
      case file      => exact .file ..
      case link      => exact absurd h (not_link_of_origin ho)
      case device    => exact absurd h hd

theorem change_of_ok {f : Disk → Except FileError Disk} (h : f disk = .ok disk') :
    (change f).run disk = (.ok (), disk') := by
  simp [change, StateT.run, h]

theorem change_of_error {f : Disk → Except FileError Disk} {e : FileError}
    (h : f disk = .error e) : (change f).run disk = (.error e, disk) := by
  simp [change, StateT.run, h]

theorem grows_makeDirectories (disk : Disk) (p : Path) :
    Grows disk ((fileSystem.makeDirectories p).run disk).2 := by
  cases h : disk.makeDirectories p
  case error => rw [fileSystem, change_of_error h]; exact .refl
  case ok    => rw [fileSystem, change_of_ok h]; exact .makeDirectoriesAt h

-- Either nothing is written, or it is told.
theorem writeText_cases (disk : Disk) (p : Path) (text : String) :
    (∃ e, (fileSystem.writeText p text).run disk = (.error e, disk)) ∨
    ∃ t disk', disk.target? p = some t ∧ Writes disk text.toUTF8 t disk' ∧
      (fileSystem.writeText p text).run disk = (.ok (), disk') := by
  cases h : disk.write p text.toUTF8
  case error e => exact .inl ⟨e, change_of_error h⟩
  case ok disk' =>
    have ⟨t, ht, hw⟩ := exists_writes h
    exact .inr ⟨t, disk', ht, hw, change_of_ok h⟩

def files : fileSystem.Files Target where
  place? := target?
  content? := content?
  isDevice t := t = .device
  isQuiet := ⟨fun _ _ => rfl, fun _ _ => rfl⟩
  place?_makeDirectories p h := (grows_makeDirectories _ p).keeps.target?_eq h
  content?_makeDirectories disk p _ := congrFun (grows_makeDirectories disk p).content?_eq _
  place?_writeText {disk _ _} p text h := by
    obtain ⟨_, hr⟩ | ⟨_, _, _, hw, hr⟩ := writeText_cases disk p text <;> rw [hr]
    · exact h
    · exact hw.keeps.target?_eq h
  content?_writeText {disk p _} text h := by
    obtain ⟨_, hr⟩ | ⟨_, _, ht, hw, hr⟩ := writeText_cases disk p text <;> rw [hr]
    refine hw.content?_of_ne ?_
    rintro rfl
    exact h ht
  exists_place_of_writeText {disk p text} h := by
    obtain ⟨_, hr⟩ | ⟨t, _, ht, hw, hr⟩ := writeText_cases disk p text <;> rw [answer, hr] at h
    · contradiction
    · exact ⟨t, ht, hr ▸ hw.content?_self⟩

end MenuOutline.Disk
