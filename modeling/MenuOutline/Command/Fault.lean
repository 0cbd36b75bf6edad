import MenuOutline.Command.Arguments
import MenuOutline.Site

-- Faults in the form in which the command line ends with them: the name of the fault with its
-- details, texts between quotes.

namespace MenuOutline

-- What is said in the words of others. Help and wrong usage are told by the library that reads the
-- arguments, and a text that is no TOML by the one that reads TOML.
structure Wording where
  help : Topic → (long : Bool) → String
  usage : (args : List String) → String
  -- What is wrong with a text that is no TOML: as a message, and with all details.
  syntaxMessage : String → String
  syntaxFault : String → String
  -- A mismatch in the settings with all details.
  mismatchFault : Datum.DecodeError → String
deriving Inhabited

-- A name with details behind it.
def Fault.wrap (name detail : String) : String :=
  name ++ "(" ++ detail ++ ")"

-- A name with named details.
def Fault.fields (name : String) (details : List (String × String)) : String :=
  name ++ " \x7b " ++ ", ".intercalate (details.map fun (key, value) => key ++ ": " ++ value) ++
    " \x7d"

open Fault

namespace FileError

def fault (e : FileError) : String :=
  match e.system? with
  | some (code, kind, text) =>
    fields "Os" [("code", toString code), ("kind", kind), ("message", Text.quoted text)]
  | none =>
    let kind := if e = .nulInName then "InvalidInput" else "InvalidData"
    fields "Error" [("kind", kind), ("message", Text.quoted e.ownText)]

end FileError

namespace PairingMismatch

def fault (m : PairingMismatch) : String :=
  fields "PairingMismatch" [
    ("parent", m.parent.elim "None" fun name => wrap "Some" (Text.quoted name)),
    ("primary", toString m.primary), ("secondary", toString m.secondary)]

end PairingMismatch

namespace MenuError

def fault : MenuError → String
  | emptyMenu => "EmptyMenu"
  | tooDeep l =>
    fields "TooDeep" [
      ("line", toString l.line), ("level", toString l.level), ("max_depth", toString l.maxDepth)]
  | pairingMismatch m => wrap "PairingMismatch" m.fault

end MenuError

namespace ProjectFault

def fault (f : ProjectFault) : String :=
  fields "FieldError" [("field", Text.quoted f.field), ("message", Text.quoted f.reason)]

end ProjectFault

namespace CheckError

def fault : CheckError → String
  | tooFewPages least found =>
    fields "TooFewPages" [("min", toString least), ("found", toString found)]
  | project faults =>
    wrap "Project" ("[" ++ ", ".intercalate (faults.map ProjectFault.fault) ++ "]")

end CheckError

namespace SiteError

def fault : SiteError → String
  | file e => wrap "Io" e.fault
  | menu e => wrap "Menu" e.fault
  | check e => wrap "Validation" e.fault

end SiteError

namespace ConfigError

def message (w : Wording) : ConfigError → String
  | file e => "IO error: " ++ e.message
  | malformed content => "TOML parse error: " ++ w.syntaxMessage content
  | settings e => e.message

def fault (w : Wording) : ConfigError → String
  | file e => wrap "Io" e.fault
  | malformed content => wrap "Toml" (w.syntaxFault content)
  | settings (.shape e) => wrap "Toml" (w.mismatchFault e)
  | settings (.invalid f) => wrap "Validation" (Text.quoted f.message)

end ConfigError

end MenuOutline
