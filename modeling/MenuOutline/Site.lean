import MenuOutline.FileSystem
import MenuOutline.Json.Printer
import MenuOutline.Manifest
import MenuOutline.Site.Dictionary.Printer
import MenuOutline.Site.Navigation.Printer
import MenuOutline.Site.Route.Printer

-- The files of a site: the manifest and the includes that its pages share. Files are written only
-- once the menu and the settings have passed all checks.

namespace MenuOutline

-- Why a menu is not good enough for a site.
inductive CheckError where
  | tooFewPages (least found : Nat)
  | project (faults : List ProjectFault)
deriving DecidableEq, Repr

def CheckError.message : CheckError → String
  | tooFewPages least found =>
    "menu must have at least " ++ toString least ++ " pages, found " ++ toString found
  | project faults =>
    "invalid project settings: " ++ "; ".intercalate (faults.map ProjectFault.message)

def Menu.checkSize (least : Nat) (m : Menu) : Except CheckError Unit :=
  if m.pageCount < least then .error (.tooFewPages least m.pageCount) else .ok ()

def Project.check (p : Project) : Except CheckError Unit :=
  if p.faults.isEmpty then .ok () else .error (.project p.faults)

-- Why there is no site.
inductive SiteError where
  | file (e : FileError)
  | menu (e : MenuError)
  | check (e : CheckError)
deriving DecidableEq, Repr

def SiteError.message : SiteError → String
  | file e => "IO error: " ++ e.message
  | menu e => e.message
  | check e => e.message

namespace Settings

def parseOptions (s : Settings) : ParseOptions where
  languages := s.languages
  maxDepth := s.maxDepth
  strictPairing := s.strictPairing

end Settings

-- A menu that has passed all checks.
def Menu.ofContent (s : Settings) (content : String) : Except SiteError Menu := do
  let menu ← (Menu.parse s.parseOptions content).mapError .menu
  (menu.checkSize s.minPages).mapError .check
  s.project.check.mapError .check
  return menu

structure Site where
  menu : Menu
  manifest : Manifest
deriving DecidableEq, Repr

namespace Site

def manifestName : String := "menu.json"
def dictionaryName : String := "_diccionario.php"
def routesName : String := "_urls.php"
def navigationName : String := "_menu.php"

def ofMenu (s : Settings) (menu : Menu) : Site where
  menu
  manifest := .build menu s

def ofContent (s : Settings) (content : String) : Except SiteError Site :=
  (Menu.ofContent s content).map (ofMenu s)

-- The files with their texts, in the order in which they are written.
def files (site : Site) : List (String × String) :=
  let m := site.manifest
  [(manifestName, Json.pretty m.toDatum),
    (dictionaryName, dictionaryFile m.languages m.dictionary),
    (routesName, routeFile m.languages m.routes),
    (navigationName, navigationFile m.navigation)]

variable {m : Type → Type} [Monad m]

-- Writes files into a directory, one after the other, up to the first fault.
def writeAll (fs : FileSystem m) (dir : Path) : List (String × String) → ExceptT SiteError m Unit
  | [] => return
  | (name, text) :: files => do
    match ← fs.writeText (dir.child name) text with
    | .ok () => writeAll fs dir files
    | .error e => throw (.file e)

-- Writes the files of a site into a directory, which is made where it is missing.
def place (fs : FileSystem m) (output : Path) (site : Site) : ExceptT SiteError m Unit := do
  match ← fs.makeDirectories output with
  | .error e => throw (.file e)
  | .ok () => writeAll fs output site.files

-- Generates the site of a menu file into a directory.
def generate (fs : FileSystem m) (s : Settings) (menu output : Path) :
    ExceptT SiteError m Site := do
  match ← fs.readText menu with
  | .error e => throw (.file e)
  | .ok content =>
    let site ← ofContent s content
    place fs output site
    return site

end Site

end MenuOutline
