import MenuOutline.Proofs.Command.Query

namespace MenuOutline.FileSystem

variable {σ ι : Type}

-- The files of a file system. A path leads to a place, which holds a file or not, and links may
-- lead many paths to one place.
structure Files (fs : FileSystem (StateM σ)) (ι : Type) where
  place? : σ → Path → Option ι
  content? : σ → ι → Option ByteArray
  -- Places that take what is written without keeping it.
  isDevice : ι → Prop
  isQuiet : fs.IsQuiet
  -- A request leaves the places where they are, whether or not it is granted.
  place?_makeDirectories {s q i} (p) :
    (place? s q = some i) → place? ((fs.makeDirectories p).run s).2 q = some i
  content?_makeDirectories (s p i) : content? ((fs.makeDirectories p).run s).2 i = content? s i
  place?_writeText {s q i} (p text) :
    (place? s q = some i) → place? ((fs.writeText p text).run s).2 q = some i
  content?_writeText {s p i} (text) :
    (place? s p ≠ some i) → content? ((fs.writeText p text).run s).2 i = content? s i
  exists_place_of_writeText {s p text} :
    (answer s (fs.writeText p text) = .ok ()) → ∃ i, place? s p = some i ∧
      (isDevice i ∨ content? ((fs.writeText p text).run s).2 i = some text.toUTF8)

variable {fs : FileSystem (StateM σ)} {L : Files fs ι} {dir : Path} {name text : String}
  {names : List String} {files : List (String × String)} {s s' s'' : σ}

-- No file changes but those that names in a directory lead to, and the paths lead where they led.
structure Files.Changes (L : Files fs ι) (dir : Path) (names : List String) (s s' : σ) : Prop where
  places {p i} : (L.place? s p = some i) → L.place? s' p = some i
  contents {i} :
    (∀ name ∈ names, L.place? s' (dir.child name) ≠ some i) → L.content? s' i = L.content? s i

namespace Files.Changes

theorem refl : L.Changes dir names s s where
  places h   := h
  contents _ := rfl

theorem trans (h : L.Changes dir names s s') (h' : L.Changes dir names s' s'') :
    L.Changes dir names s s'' where
  places hp   := h'.places (h.places hp)
  contents hn :=
    (h'.contents hn).trans <| h.contents fun name hm hp => hn name hm (h'.places hp)

theorem mono {names' : List String} (h : L.Changes dir names s s') (hs : names ⊆ names') :
    L.Changes dir names' s s' where
  places      := h.places
  contents hn := h.contents fun name hm => hn name (hs hm)

theorem makeDirectories (s : σ) (p : Path) :
    L.Changes dir names s ((fs.makeDirectories p).run s).2 where
  places     := L.place?_makeDirectories p
  contents _ := L.content?_makeDirectories ..

theorem writeText (s : σ) (text : String) (h : name ∈ names) :
    L.Changes dir names s ((fs.writeText (dir.child name) text).run s).2 where
  places      := L.place?_writeText _ text
  contents hn := L.content?_writeText text fun hp => hn name h (L.place?_writeText _ text hp)

end Files.Changes

-- A name in a directory leads to a file with this text, unless one of the later names leads there
-- too, or there is a device.
def Files.Holds (L : Files fs ι) (dir : Path) (s : σ) (name text : String) (later : List String) :
    Prop :=
  ∃ i, L.place? s (dir.child name) = some i ∧ (L.content? s i = some text.toUTF8 ∨
    (∃ name' ∈ later, L.place? s (dir.child name') = some i) ∨ L.isDevice i)

-- Files stand in a directory as if they had been written one after the other.
def Files.Written (L : Files fs ι) (dir : Path) (s : σ) : List (String × String) → Prop
  | [] => True
  | (name, text) :: files =>
    L.Holds dir s name text (files.map (·.1)) ∧ L.Written dir s files

-- What has been written stays unless it is written over.
theorem Files.Holds.of_changes (hw : answer s (fs.writeText (dir.child name) text) = .ok ())
    (hc : L.Changes dir names ((fs.writeText (dir.child name) text).run s).2 s') :
    L.Holds dir s' name text names := by
  have ⟨i, hp, ht⟩ := L.exists_place_of_writeText hw
  have hp := hc.places <| L.place?_writeText _ text hp
  refine ⟨i, hp, ?_⟩
  by_cases hl : ∃ name' ∈ names, L.place? s' (dir.child name') = some i
  case pos => exact .inr (.inl hl)
  case neg =>
    have hn : ∀ name' ∈ names, L.place? s' (dir.child name') ≠ some i :=
      fun name' hm hi => hl ⟨name', hm, hi⟩
    cases ht
    case inl hd => exact .inr (.inr hd)
    case inr ht => exact .inl <| (hc.contents hn).trans ht

end MenuOutline.FileSystem
