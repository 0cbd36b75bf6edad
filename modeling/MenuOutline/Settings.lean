import MenuOutline.Languages
import MenuOutline.Project

-- Settings of a site, their defaults and what they must satisfy.

namespace MenuOutline

structure Settings where
  languages : Languages
  -- The count of levels allowed in a menu.
  maxDepth : Nat
  strictPairing : Bool
  -- The fewest pages that a menu may have.
  minPages : Nat
  project : Project
  -- The most workers that check menus at a time.
  maxProcesses : Option Nat
deriving DecidableEq, Repr

inductive SettingsFault where
  | primaryCode (given : String)
  | secondaryCode (given : String)
  | sameLanguages
  | noLevels
deriving DecidableEq, Repr

namespace SettingsFault

def message : SettingsFault → String
  | primaryCode given => "languages.primary must be a language code, got " ++ Text.quoted given
  | secondaryCode given => "languages.secondary must be a language code, got " ++ Text.quoted given
  | sameLanguages => "languages.secondary must differ from languages.primary"
  | noLevels => "parse.max_depth must be at least 1"

end SettingsFault

namespace Languages

-- A language code is a short label of ASCII letters, digits and hyphens.
def isCode (s : String) : Bool :=
  let cs := s.toList
  !cs.isEmpty && cs.length ≤ 8 && cs.all fun c => c.isAlphanum || c == '-'

def check (l : Languages) : Except SettingsFault Unit :=
  if !isCode l.primary then .error (.primaryCode l.primary)
  else match l.secondary with
    | none => .ok ()
    | some secondary =>
      if !isCode secondary then .error (.secondaryCode secondary)
      else if secondary = l.primary then .error .sameLanguages
      else .ok ()

end Languages

namespace Settings

def default : Settings where
  languages := { primary := defaultLanguage, secondary := none }
  maxDepth := 3
  strictPairing := false
  minPages := 2
  project := .none
  maxProcesses := none

def check (s : Settings) : Except SettingsFault Unit := do
  s.languages.check
  if s.maxDepth = 0 then .error .noLevels else .ok ()

-- The count of workers on a machine with so many cores: a limit may lower it, but not below one.
def workers (cores : Nat) (s : Settings) : Nat :=
  s.maxProcesses.elim cores fun limit => min (max limit 1) cores

end Settings

end MenuOutline
