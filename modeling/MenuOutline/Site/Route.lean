import MenuOutline.Outline.Walk
import MenuOutline.Page

-- Routes: the addresses of the files that are reached in both languages.

namespace MenuOutline

-- The slugs under which a file is reached in both languages.
structure Route where
  primarySlug : String
  secondarySlug : String
  file : String
deriving DecidableEq, Repr

def Route.ofPage? (p : Page) : Option Route := do
  let file ← p.file
  let primarySlug ← p.slug
  let secondarySlug ← p.counterpart.slug?
  return { primarySlug, secondarySlug, file }

def routes (pages : Outline Page) : List Route :=
  pages.walk.filterMap Route.ofPage?

theorem routes_eq (pages : Outline Page) :
    routes pages = pages.entries.filterMap Route.ofPage? := by
  rw [routes, Outline.walk_eq_entries]

end MenuOutline
