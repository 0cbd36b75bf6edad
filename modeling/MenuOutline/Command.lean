import MenuOutline.Command.Arguments
import MenuOutline.Command.Fault
import MenuOutline.Command.Machine
import MenuOutline.Report
import MenuOutline.Settings.Stock

-- The command line: what each command reads, writes and prints. Commands work on any file system
-- that answers their requests.

namespace MenuOutline

-- How a run ends.
structure RunResult where
  code : Nat
  output : String
  errors : String
deriving DecidableEq, Repr

namespace RunResult

def lines (ls : List String) : String :=
  String.join (ls.map (· ++ "\n"))

def success (output : String) : RunResult where
  code := 0
  output
  errors := ""

def failure (output fault : String) : RunResult where
  code := 1
  output
  errors := "Error: " ++ fault ++ "\n"

def wrongUsage (told : String) : RunResult where
  code := 2
  output := ""
  errors := told

end RunResult

namespace Command

def versionText : String :=
  "menuforge 0.3.0\n"

variable {m : Type → Type} [Monad m]

-- Ends with what was printed, or with the fault.
def finish (run : ExceptT String m String) : m RunResult := do
  match ← run.run with
  | .ok output => return .success output
  | .error fault => return .failure "" fault

def readMenu (fs : FileSystem m) (menu : Path) : ExceptT String m String := do
  match ← fs.readText menu with
  | .ok content => return content
  | .error e => throw e.fault

def loadSettings (w : Wording) (fs : FileSystem m) (flags : Settings.LanguageFlags) (menu : Path) :
    ExceptT String m Settings :=
  (Settings.loadWithFlags fs flags menu).adapt (ConfigError.fault w)

-- Shows the pages of a menu, or its manifest.
def parse (w : Wording) (fs : FileSystem m) (flags : Settings.LanguageFlags) (menu : String)
    (json : Bool) : m RunResult := finish do
  let path := Path.ofString menu
  let settings ← loadSettings w fs flags path
  let content ← readMenu fs path
  match Menu.parse settings.parseOptions content with
  | .error e => throw e.fault
  | .ok menu =>
    let site := Site.ofMenu settings menu
    if json then return Json.pretty site.manifest.toDatum ++ "\n"
    else return RunResult.lines (Report.ofParse site)

-- The settings of a menu, or the message why it has none.
def settingsOf (w : Wording) (fs : FileSystem m) (flags : Settings.LanguageFlags)
    (menu : String) : m (Except String Settings) := do
  let settings ← (Settings.loadWithFlags fs flags (.ofString menu)).run
  return settings.mapError (ConfigError.message w)

-- Runs all checks on the text of a menu.
def checkContent (s : Settings) (content : String) : Except String Menu := do
  let menu ← (Menu.parse s.parseOptions content).mapError MenuError.message
  (menu.checkSize s.minPages).mapError CheckError.message
  s.project.check.mapError CheckError.message
  return menu

def checkMenu (fs : FileSystem m) (menu : String) (s : Settings) : m (Except String Menu) := do
  match ← fs.readText (.ofString menu) with
  | .error e => return .error e.message
  | .ok content => return checkContent s content

-- The outcome of checking a menu, given its settings if it has any.
def outcome (fs : FileSystem m) (menu : String) : Except String Settings → m (Except String Menu)
  | .error message => return .error message
  | .ok s => checkMenu fs menu s

-- The count of workers: the settings of the first menu decide on it for all of them.
def workers (machine : Machine) : List (Except String Settings) → Nat
  | .ok first :: _ => first.workers machine.cores
  | _ => machine.cores

def reportOn (menu : String) (settings : Except String Settings) (result : Except String Menu) :
    List String :=
  Report.ofCheck menu result (settings.toOption.bind (·.languages.secondary))

-- How a check of menus ends, given what is printed and how many of them fail.
def conclude (output : String) (failures menus : Nat) : RunResult :=
  let summary := toString failures ++ " of " ++ toString menus ++ " menus failed"
  if failures = 0 then .success output else .failure output (Text.quoted summary)

-- Checks menus side by side and reports on them in their order. Every menu has settings of its own,
-- which are loaded before the first check.
def check (w : Wording) (fs : FileSystem m) (machine : Machine) (flags : Settings.LanguageFlags)
    (menus : List String) : m RunResult := do
  let settings ← menus.mapM (settingsOf w fs flags)
  let results ← machine.runAll (workers machine settings) (menus.zipWith (outcome fs) settings)
  let reports := ((menus.zip settings).zip results).map fun ((menu, settings), result) =>
    reportOn menu settings result
  return conclude (RunResult.lines reports.flatten) (results.countP (!·.isOk)) menus.length

def generate (w : Wording) (fs : FileSystem m) (flags : Settings.LanguageFlags)
    (menu output : String) : m RunResult := finish do
  let path := Path.ofString menu
  let settings ← loadSettings w fs flags path
  let site ← (Site.generate fs settings path (.ofString output)).adapt SiteError.fault
  return RunResult.lines (Report.ofGenerate site output)

-- Runs a request.
def perform (w : Wording) (fs : FileSystem m) (machine : Machine) (i : Invocation) :
    m RunResult :=
  match i.request with
  | .parse menu json => parse w fs i.flags menu json
  | .check menus => check w fs machine i.flags menus
  | .generate menu output => generate w fs i.flags menu output
  | .genConfig => return .success Settings.stockFile
  | .version => return .success versionText
  | .help topic long => return .success (w.help topic long)

-- Runs the program with its arguments.
def run (w : Wording) (fs : FileSystem m) (args : List String) : m RunResult :=
  match Invocation.ofArguments? args with
  | some i => perform w fs .sequential i
  | none => return .wrongUsage (w.usage args)

end Command

end MenuOutline
