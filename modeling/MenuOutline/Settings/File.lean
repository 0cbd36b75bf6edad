import MenuOutline.FileSystem
import MenuOutline.Settings.Data
import MenuOutline.Toml.Reader

-- Settings files. A menu takes its settings from a file beside it, if there is one; language codes
-- given on the command line come before those of the file.

namespace MenuOutline

-- Why the settings of a menu cannot be had.
inductive ConfigError where
  | file (e : FileError)
  -- The text is no TOML.
  | malformed (content : String)
  | settings (e : SettingsError)
deriving DecidableEq, Repr

-- A mismatch and the path of keys to it, each on a line.
def Datum.DecodeError.report (e : Datum.DecodeError) : String :=
  e.mismatch.message Toml.numberForm ++ "\n" ++
    if e.path.isEmpty then "" else "in " ++ Datum.backquoted (".".intercalate e.path) ++ "\n"

def SettingsError.message : SettingsError → String
  | shape e => "TOML parse error: " ++ e.report
  | invalid fault => "Config validation error: " ++ fault.message

namespace Settings

def filename : String :=
  "config.toml"

-- The overlay that a settings file holds.
def parseOverlay (content : String) : Except ConfigError Datum :=
  match Toml.read? content with
  | some overlay => .ok overlay
  | none => .error (.malformed content)

-- The overlay in a directory, if there is one.
def loadOverlay {m : Type → Type} [Monad m] (fs : FileSystem m) (dir : Path) :
    ExceptT ConfigError m (Option Datum) := do
  let path := dir.child filename
  if ← fs.isThere path then
    match ← fs.readText path with
    | .ok content => return some (← parseOverlay content)
    | .error e => throw (.file e)
  else return none

-- The settings of a menu, given the path to it.
def load {m : Type → Type} [Monad m] (fs : FileSystem m) (menu : Path) :
    ExceptT ConfigError m Settings := do
  let overlay ← loadOverlay fs menu.directory
  return ← (resolve overlay).mapError ConfigError.settings

-- Language codes given on the command line.
structure LanguageFlags where
  primary : Option String
  secondary : Option String
deriving DecidableEq, Repr

-- The settings with the languages that are given.
def withFlags (s : Settings) (flags : LanguageFlags) : Settings :=
  { s with
    languages := {
      primary := flags.primary.getD s.languages.primary
      secondary := flags.secondary.or s.languages.secondary } }

def applyFlags (flags : LanguageFlags) (s : Settings) : Except ConfigError Settings := do
  (s.withFlags flags).check.mapError fun fault => .settings (.invalid fault)
  return s.withFlags flags

-- The settings of a menu, after the flags.
def loadWithFlags {m : Type → Type} [Monad m] (fs : FileSystem m) (flags : LanguageFlags)
    (menu : Path) : ExceptT ConfigError m Settings := do
  return ← applyFlags flags (← load fs menu)

end Settings

end MenuOutline
