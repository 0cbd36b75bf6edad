import MenuOutline.Manifest.Artifact
import MenuOutline.Proofs.Datum.Reordered

namespace MenuOutline

open Datum Record Nest

namespace Counterpart

theorem readAs_ofDatum (c : Counterpart) : ReadAs ofDatum c.toDatum c := by
  have hn : List.Forall₂ (Stores record.storeMember) (optionalMember "name" c.name) _ :=
    stores_optionalMember rfl c.name
  have hs : List.Forall₂ (Stores record.storeMember) (optionalMember "slug" c.slug) _ :=
    stores_optionalMember rfl c.slug
  have he : List.Forall₂ (Stores record.storeMember) (optionalMember "seo" c.seo) _ :=
    stores_optionalMember rfl c.seo
  refine readAs_read (List.rel_append (List.rel_append hn hs) he) ?commute ?result
  all_goals
    obtain ⟨name, slug, seo⟩ := c
    cases name <;> cases slug <;> cases seo
  all_goals simp [commute_iff, record, none]

end Counterpart

namespace Route

theorem readAs_record (r : Route) : ReadAs record.read r.toDatum {
    primarySlug := some r.primarySlug
    secondarySlug := some r.secondarySlug
    file := some r.file } := by
  refine readAs_read
    (.cons (stores_field rfl <| readAs_readText _) <|
    .cons (stores_field rfl <| readAs_readText _) <|
    .cons (stores_field rfl <| readAs_readText _) .nil) ?_ rfl
  simp [commute_iff]

theorem readAs_ofDatum (r : Route) : ReadAs ofDatum r.toDatum r := by
  intro d hd
  rw [ofDatum, r.readAs_record d hd]
  rfl

end Route

namespace PageFile

theorem readAs_record (f : PageFile) : ReadAs record.read f.toDatum {
    filename := some f.filename
    slug := some f.slug
    name := some f.name
    variableName := some f.variableName
    dictionaryKey := f.dictionaryKey
    seo := some f.seo
    isHome := some f.isHome } := by
  refine readAs_read
    (.cons (stores_field rfl <| readAs_readText _) <|
    .cons (stores_field rfl <| readAs_readText _) <|
    .cons (stores_field rfl <| readAs_readText _) <|
    .cons (stores_field rfl <| readAs_readText _) <|
    .cons (stores_field rfl <| readAs_readOptional _) <|
    .cons (stores_field rfl <| readAs_readText _) <|
    .cons (stores_field rfl <| readAs_readBool _) .nil) ?_ rfl
  simp [commute_iff]

theorem readAs_ofDatum (f : PageFile) : ReadAs ofDatum f.toDatum f := by
  intro d hd
  rw [ofDatum, f.readAs_record d hd]
  rfl

end PageFile

namespace Page

theorem readAs_readNode (p : Page) (below : Outline Page)
    (h : ReadAs nest.readOutline (pagesToDatum below) below) :
    ReadAs nest.readNode (p.toDatum <| pagesToDatum below) (p, below) := by
  refine Nest.readAs_readNode
    (.cons (stores_own rfl <| readAs_readText _) <|
    .cons (stores_own rfl <| readAs_readOptional _) <|
    .cons (stores_own rfl <| readAs_readText _) <|
    .cons (stores_own rfl <| readAs_readSize _) <|
    .cons (stores_own rfl <| readAs_readBool _) <|
    .cons (stores_own rfl <| readAs_readBool _) <|
    .cons (stores_own rfl <| readAs_readBool _) <|
    .cons (stores_own rfl <| readAs_readBool _) <|
    .cons (stores_own rfl <| readAs_readBool _) <|
    .cons (stores_own rfl <| readAs_readOptional _) <|
    .cons (stores_own rfl <| readAs_readOptional _) <|
    .cons (stores_own rfl <| readAs_readOptional _) <|
    .cons (stores_below rfl h) <|
    .cons (stores_own rfl p.counterpart.readAs_ofDatum) .nil) ?_ rfl rfl
  simp [commute_iff]

theorem readAs_ofDatum (p : Page) (below : Outline Page) :
    ReadAs ofDatum (p.toDatum <| pagesToDatum below) (p, below) :=
  p.readAs_readNode below <| readAs_readOutline readAs_readNode below

end Page

namespace NavItem

theorem readAs_readNode (i : NavItem) (below : Outline NavItem)
    (h : ReadAs nest.readOutline (navigationToDatum below) below) :
    ReadAs nest.readNode (i.toDatum <| navigationToDatum below) (i, below) := by
  refine Nest.readAs_readNode
    (.cons (stores_own rfl <| readAs_readText _) <|
    .cons (stores_own rfl <| readAs_readOptional _) <|
    .cons (stores_own rfl <| readAs_readText _) <|
    .cons (stores_own rfl <| readAs_readOptional _) <|
    .cons (stores_own rfl <| readAs_readOptional _) <|
    .cons (stores_own rfl <| readAs_readBool _) <|
    .cons (stores_own rfl <| readAs_readBool _) <|
    .cons (stores_below rfl h) .nil) ?_ rfl rfl
  simp [commute_iff]

theorem readAs_ofDatum (i : NavItem) (below : Outline NavItem) :
    ReadAs ofDatum (i.toDatum <| navigationToDatum below) (i, below) :=
  i.readAs_readNode below <| readAs_readOutline readAs_readNode below

end NavItem

-- Pages, counterparts, routes, files and navigation items are read back from their data, however
-- deep they nest and in whatever order the members of the tables come.
theorem ofDatum_of_reordered :
    (∀ (p : Page) (below : Outline Page) (d : Datum),
      (p.toDatum <| pagesToDatum below).Reordered d → Page.ofDatum d = .ok (p, below)) ∧
    (∀ (c : Counterpart) (d : Datum), c.toDatum.Reordered d → Counterpart.ofDatum d = .ok c) ∧
    (∀ (r : Route) (d : Datum), r.toDatum.Reordered d → Route.ofDatum d = .ok r) ∧
    (∀ (f : PageFile) (d : Datum), f.toDatum.Reordered d → PageFile.ofDatum d = .ok f) ∧
    (∀ (i : NavItem) (below : Outline NavItem) (d : Datum),
      (i.toDatum <| navigationToDatum below).Reordered d → NavItem.ofDatum d = .ok (i, below)) :=
  ⟨Page.readAs_ofDatum, Counterpart.readAs_ofDatum, Route.readAs_ofDatum, PageFile.readAs_ofDatum,
    NavItem.readAs_ofDatum⟩

-- A page without slug above one with a counterpart, with its last member first.
theorem ofDatum_of_reordered_nested :
    let child : Page := {
      name := "Vinos", slug := some "vinos", seo := "Vinos", level := 1, isHome := false
      skipPage := false, noSeo := true, automanaged := false, hasSeo := false
      variableName := some "vinos", file := some "vinos.php", dictionaryKey := some "Vinos"
      counterpart := { name := some "Vins", slug := none, seo := some "Vins" } }
    let page : Page := {
      child with name := "···", slug := none, level := 0, variableName := none, file := none
                 dictionaryKey := none, counterpart := .none }
    let below : Outline Page := .cons child .nil .nil
    let d := match page.toDatum <| pagesToDatum below with
      | .table ms => .table ms.reverse
      | d => d
    (page.toDatum <| pagesToDatum below).Reordered d ∧ Page.ofDatum d = .ok (page, below) := by
  intro child page below d
  have h : (page.toDatum <| pagesToDatum below).Reordered d :=
    .table (List.forall₂_same.mpr fun _ _ => .intro _ <| .refl _) (List.reverse_perm _).symm
  exact ⟨h, ofDatum_of_reordered.1 page below d h⟩

end MenuOutline
