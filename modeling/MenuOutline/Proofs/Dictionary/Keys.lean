import MenuOutline.Site
import Mathlib

namespace MenuOutline

namespace DictionaryEntry

-- What is added to a key for the texts of a file.
def suffixes : List String :=
  ["Title", "KeyWords", "Description"]

def textKeys (key : String) : List String :=
  suffixes.map (key ++ ·)

-- The keys under which the dictionary holds what there is to say of a page.
def keysOf (p : Page) : List String :=
  match p.dictionaryKey with
  | none     => []
  | some key => ("Menu" ++ key) :: if p.hasFile then textKeys key else []

@[simp] theorem key_make (l : Languages) (key text : String) (other : Option String) :
    (make l key text other).key = key :=
  rfl

theorem map_key_ofPage (l : Languages) (business : String) (p : Page) :
    (ofPage l business p).map (·.key) = keysOf p := by
  unfold ofPage keysOf
  cases p.dictionaryKey
  case none     => rfl
  case some key =>
    cases p.hasFile <;> simp [menuKey, textKeys, suffixes]

end DictionaryEntry

open DictionaryEntry

-- The keys of a dictionary are those of its pages, one page after the other.
theorem map_key_dictionary (l : Languages) (business : Option String) (pages : Outline Page) :
    (dictionary l business pages).map (·.key) = pages.entries.flatMap keysOf := by
  simp only [dictionary_eq, List.map_flatMap, map_key_ofPage]

namespace DictionaryEntry

variable {k k' suffix : String} {ks : List String} {ps : List Page}

private theorem head?_ne_of_mem_suffixes {c : Char} (h : suffix ∈ suffixes)
    (hc : c ∈ "Menu".toList) : suffix.toList.head? ≠ some c := by
  simp only [suffixes, List.mem_cons, List.not_mem_nil, or_false] at h
  replace hc : c = 'M' ∨ c = 'e' ∨ c = 'n' ∨ c = 'u' := by simpa using hc
  obtain rfl | rfl | rfl := h <;> obtain rfl | rfl | rfl | rfl := hc <;> simp

-- No suffix starts inside the prefix of the labels.
theorem label_eq_append_iff (h : suffix ∈ suffixes) :
    "Menu" ++ k = k' ++ suffix ↔ ∃ x, k' = "Menu" ++ x ∧ k = x ++ suffix := by
  constructor
  case mp =>
    intro he
    have he : "Menu".toList ++ k.toList = k'.toList ++ suffix.toList := by
      rw [← String.toList_append, he, String.toList_append]
    cases List.append_eq_append_iff.mp he
    case inl h =>
      have ⟨cs, hk', hk⟩ := h
      have hk' : k' = "Menu" ++ .ofList cs := String.toList_injective <| by simpa using hk'
      have hk : k = .ofList cs ++ suffix   := String.toList_injective <| by simpa using hk
      exact ⟨_, hk', hk⟩
    case inr h' =>
      have ⟨cs, hm, hs⟩ := h'
      cases cs
      case nil =>
        have hk' : k' = "Menu" ++ "" := String.toList_injective <| by simpa using hm.symm
        have hk : k = "" ++ suffix   := String.toList_injective <| by simpa using hs.symm
        exact ⟨_, hk', hk⟩
      case cons c cs =>
        have hc : c ∈ "Menu".toList := by rw [hm]; simp
        have hh : suffix.toList.head? = some c := by rw [hs]; rfl
        exact absurd hh (head?_ne_of_mem_suffixes h hc)
  case mpr =>
    rintro ⟨x, rfl, rfl⟩
    exact (String.append_assoc ..).symm

-- The keys of pages, each standing for a label.
def pageKeys (ps : List Page) : List String :=
  ps.filterMap (·.dictionaryKey)

theorem mem_pageKeys : k ∈ pageKeys ps ↔ ∃ p ∈ ps, p.dictionaryKey = some k :=
  List.mem_filterMap

theorem keysOf_eq (p : Page) : keysOf p = (p.dictionaryKey.map ("Menu" ++ ·)).toList ++
    (if p.hasFile then p.dictionaryKey else none).toList.flatMap textKeys := by
  unfold keysOf
  cases p.dictionaryKey <;> cases p.hasFile <;> simp

-- The keys of the labels apart from those of the texts.
theorem flatMap_keysOf_perm (ps : List Page) : (ps.flatMap keysOf).Perm
    ((pageKeys ps).map ("Menu" ++ ·) ++ (pageKeys (ps.filter (·.hasFile))).flatMap textKeys) := by
  have hl : (pageKeys ps).map ("Menu" ++ ·) =
      ps.flatMap fun p => (p.dictionaryKey.map ("Menu" ++ ·)).toList := by
    rw [pageKeys, List.map_filterMap, List.filterMap_eq_flatMap_toList]
  have ht : (pageKeys (ps.filter (·.hasFile))).flatMap textKeys = ps.flatMap fun p =>
      (if p.hasFile then p.dictionaryKey else none).toList.flatMap textKeys := by
    rw [pageKeys, List.filterMap_filter, List.filterMap_eq_flatMap_toList, List.flatMap_assoc]
  rw [hl, ht, funext keysOf_eq]
  exact (List.flatMap_append_perm ..).symm

-- The last letter of a suffix tells which one it is.
theorem eq_of_append_eq_append {suffix' : String} (h : suffix ∈ suffixes) (h' : suffix' ∈ suffixes)
    (he : k ++ suffix = k' ++ suffix') : k = k' := by
  simp only [suffixes, List.mem_cons, List.not_mem_nil, or_false] at h h'
  have hl : (k ++ suffix).toList.getLast? = (k' ++ suffix').toList.getLast? := by rw [he]
  obtain rfl | rfl | rfl := h <;> obtain rfl | rfl | rfl := h' <;> simp at hl
  all_goals exact (String.append_left_inj _).mp he

theorem nodup_textKeys (k : String) : (textKeys k).Nodup :=
  List.Nodup.map (fun _ _ => (String.append_right_inj k).mp) (by simp [suffixes])

-- Each text of a page has a key of its own.
theorem nodup_flatMap_textKeys (h : ks.Nodup) : (ks.flatMap textKeys).Nodup := by
  refine List.nodup_flatMap.mpr ⟨fun k _ => nodup_textKeys k, h.imp fun {k k'} hk s hs hs' => ?_⟩
  have ⟨suffix, hm, he⟩   := List.mem_map.mp hs
  have ⟨suffix', hm', he'⟩ := List.mem_map.mp hs'
  exact hk <| eq_of_append_eq_append hm hm' (he.trans he'.symm)

end DictionaryEntry

-- Whether the label of a page and a text of another one would have the same key.
def Page.Clashes (p q : Page) : Prop :=
  q.hasFile ∧ ∃ x, q.dictionaryKey = some ("Menu" ++ x) ∧
    ∃ suffix ∈ suffixes, p.dictionaryKey = some (x ++ suffix)

namespace DictionaryEntry

theorem disjoint_keys_iff :
    List.Disjoint ((pageKeys ps).map ("Menu" ++ ·))
        ((pageKeys (ps.filter (·.hasFile))).flatMap textKeys) ↔
      ∀ p ∈ ps, ∀ q ∈ ps, ¬p.Clashes q := by
  constructor
  case mp =>
    rintro hd p hp q hq ⟨hf, x, hk, suffix, hs, hk'⟩
    have hl : "Menu" ++ (x ++ suffix) ∈ (pageKeys ps).map ("Menu" ++ ·) :=
      List.mem_map_of_mem <| mem_pageKeys.mpr ⟨p, hp, hk'⟩
    have hq' : "Menu" ++ x ∈ pageKeys (ps.filter (·.hasFile)) :=
      mem_pageKeys.mpr ⟨q, List.mem_filter.mpr ⟨hq, hf⟩, hk⟩
    have ht : "Menu" ++ x ++ suffix ∈ (pageKeys (ps.filter (·.hasFile))).flatMap textKeys :=
      List.mem_flatMap.mpr ⟨_, hq', List.mem_map_of_mem hs⟩
    exact hd hl <| String.append_assoc .. ▸ ht
  case mpr =>
    intro h s hs ht
    have ⟨k, hk, he⟩ := List.mem_map.mp hs
    have ⟨k', hk', hs'⟩ := List.mem_flatMap.mp ht
    have ⟨suffix, hm, he'⟩ := List.mem_map.mp hs'
    have ⟨x, hx, hx'⟩ := (label_eq_append_iff hm).mp (he.trans he'.symm)
    have ⟨p, hp, hpk⟩ := mem_pageKeys.mp hk
    have ⟨q, hq, hqk⟩ := mem_pageKeys.mp hk'
    have ⟨hq, hf⟩ := List.mem_filter.mp hq
    exact h p hp q hq ⟨hf, x, hx ▸ hqk, suffix, hm, hx' ▸ hpk⟩

end DictionaryEntry

-- Where the keys of pages are distinct, so are the keys of all entries, unless a page is called like
-- a text of another page whose key starts like the key of a label.
theorem nodup_keys_dictionary_iff (l : Languages) (business : Option String)
    (pages : Outline Page) : ((dictionary l business pages).map (·.key)).Nodup ↔
      (pages.entries.filterMap (·.dictionaryKey)).Nodup ∧
      ∀ p ∈ pages.entries, ∀ q ∈ pages.entries, ¬p.Clashes q := by
  rw [map_key_dictionary, (flatMap_keysOf_perm _).nodup_iff, List.nodup_append', disjoint_keys_iff]
  have hi : Function.Injective ("Menu" ++ ·) := fun _ _ => (String.append_right_inj _).mp
  rw [List.nodup_map_iff hi, ← and_assoc]
  refine and_congr_left fun _ => and_iff_left_of_imp fun h => ?_
  exact nodup_flatMap_textKeys <| h.sublist <| List.filter_sublist.filterMap _

-- The label of a page called Title takes the place of the title of a page called Menu.
theorem not_nodup_keys_dictionary_title :
    let o : ParseOptions := ⟨⟨"es", none⟩, 3, false⟩
    ∃ m ∈ (Menu.parse o "Menu\nTitle\n").toOption,
      (m.combined.entries.filterMap (·.dictionaryKey)).Nodup ∧
      ¬((dictionary o.languages none m.combined).map (·.key)).Nodup := by
  decide +kernel

end MenuOutline
