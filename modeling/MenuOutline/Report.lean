import MenuOutline.Site

-- Reports: what the command line tells of a menu, line by line. What was passed over in reading it
-- follows as warnings.

namespace MenuOutline.Report

-- A count with its noun.
def count (n : Nat) (singular plural : String) : String :=
  toString n ++ " " ++ if n = 1 then singular else plural

-- A position in three digits or more.
def position (n : Nat) : String :=
  let digits := Nat.toDigits 10 n
  .ofList (List.replicate (3 - digits.length) '0' ++ digits)

def indent (depth : Nat) : String :=
  .ofList (List.replicate (4 * depth) ' ')

-- What becomes of a page.
def fate (p : Page) : String :=
  match p.file with
  | some file => " → " ++ file ++ if p.noSeo then " (no SEO)" else ""
  | none =>
    if p.skipPage then " (menu only)"
    else if p.automanaged then " (managed by hand)"
    else " (no slug)"

def pageHeader (n : Nat) (p : Page) : String :=
  position n ++ " " ++ (if p.name.isEmpty then "(unnamed)" else p.name) ++ fate p

def counterpartLines (p : Page) : List String :=
  match p.counterpart.name with
  | none => []
  | some name =>
    ["    Translation: " ++ name ++
      p.counterpart.slug?.elim "" fun slug => " (/" ++ slug ++ ")"]

def seoLines (p : Page) : List String :=
  if p.hasSeo && !p.noSeo then ["    SEO: " ++ p.seo] else []

-- The lines of pages and of those below them; `n` is the position of the first page.
def pageLines (depth n : Nat) : Outline Page → List String
  | .nil => []
  | .cons p below after =>
    ((pageHeader n p :: counterpartLines p ++ seoLines p).map (indent depth ++ ·)) ++
      pageLines (depth + 1) 1 below ++ pageLines depth (n + 1) after

-- The warnings of a menu, given the second language that is configured.
def warnings (m : Menu) (secondary : Option String) : List String :=
  (if m.hasSecondary && secondary.isNone then
    ["warning: menu has a second language section but no secondary language is configured; " ++
      "its texts are left out (set languages.secondary or --secondary)"]
  else []) ++
  (if 0 < m.ignoredSections then
    ["warning: " ++ count m.ignoredSections "section" "sections" ++
      " after the second one ignored"]
  else []) ++
  m.droppedLines.map (fun n =>
    "warning: line " ++ toString n ++ " dropped: indented under a page that does not exist") ++
  m.pairingMismatches.map fun mismatch => "warning: " ++ mismatch.message

def languageLines (l : Languages) : List String :=
  ["", "Languages", "    " ++ l.primary ++ " (primary)"] ++
    l.secondary.toList.map fun secondary => "    " ++ secondary ++ " (secondary)"

def projectLines (m : Manifest) : List String :=
  match m.projectFolder with
  | none => []
  | some folder =>
    ["", "Project", "    " ++ folder ++ "/"] ++
      m.assetsFolder.toList.map fun assets => "    " ++ assets ++ "/"

-- The pages of a menu with what they become.
def ofParse (site : Site) : List String :=
  let m := site.manifest
  ["Pages"] ++ pageLines 0 1 site.menu.combined ++ languageLines m.languages ++ projectLines m ++
    ["", ", ".intercalate [
      count site.menu.pageCount "page" "pages",
      count m.files.length "file" "files",
      count m.routes.length "route" "routes",
      count m.dictionary.length "dictionary key" "dictionary keys"]] ++
    warnings site.menu m.languages.secondary

def fileCount (m : Menu) : Nat :=
  (m.combined.walk.filter Page.hasFile).length

-- The outcome of checking a menu file.
def ofCheck (path : String) (result : Except String Menu) (secondary : Option String) :
    List String :=
  match result with
  | .ok menu =>
    (path ++ ": ok (" ++ count menu.pageCount "page" "pages" ++ ", " ++
      count (fileCount menu) "file" "files" ++ ")") ::
      (warnings menu secondary).map ("    " ++ ·)
  | .error message => [path ++ ": error: " ++ message]

-- What a file of the site holds.
def fileLine (m : Manifest) (name : String) : String :=
  if name = Site.dictionaryName then name ++ " (" ++ count m.dictionary.length "key" "keys" ++ ")"
  else if name = Site.routesName then
    name ++ " (" ++ count (m.routes.length + 1) "route" "routes" ++ ")"
  else if name = Site.navigationName then
    name ++ " (" ++ count m.navigation.size "item" "items" ++ ")"
  else name

-- The files written for a site.
def ofGenerate (site : Site) (output : String) : List String :=
  let names := site.files.map (·.1)
  names.map (fileLine site.manifest) ++
    ["", "Generated " ++ count names.length "file" "files" ++ " → " ++ output] ++
    warnings site.menu site.manifest.languages.secondary

end MenuOutline.Report
