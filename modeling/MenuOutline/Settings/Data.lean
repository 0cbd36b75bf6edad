import MenuOutline.Datum.Merge
import MenuOutline.Datum.Record
import MenuOutline.Settings

-- Settings as data, in five sections. A settings file is laid over the defaults; keys that stand
-- for no setting are refused.

namespace MenuOutline.Settings

open Datum

def member {α : Type} (key : String) (encode : α → Datum) : Option α → List (String × Datum)
  | some a => [(key, encode a)]
  | none => []

def toDatum (s : Settings) : Datum :=
  .table [
    ("languages", .table (
      ("primary", .text s.languages.primary) :: member "secondary" .text s.languages.secondary)),
    ("parse", .table [
      ("max_depth", .int s.maxDepth),
      ("strict_pairing", .bool s.strictPairing)]),
    ("processing", .table (member "max_processes" (.int ·) s.maxProcesses)),
    ("project", .table (
      member "business_name" .text s.project.businessName ++
      member "domain" .text s.project.domain ++
      member "email" .text s.project.email ++
      member "phone" .text s.project.phone)),
    ("validation", .table [("min_pages", .int s.minPages)])]

def languagesRecord (start : Languages) : Record Languages where
  name := "LanguagesConfig"
  fields := [
    field "primary" readText fun l primary => { l with primary },
    field "secondary" (readOptional readText) fun l secondary => { l with secondary }]
  required := 0
  start
  strict := true

def parseRecord (start : Settings) : Record Settings where
  name := "ParseConfig"
  fields := [
    field "max_depth" readSize fun s maxDepth => { s with maxDepth },
    field "strict_pairing" readBool fun s strictPairing => { s with strictPairing }]
  required := 0
  start
  strict := true

def validationRecord (start : Settings) : Record Settings where
  name := "ValidationConfig"
  fields := [field "min_pages" readSize fun s minPages => { s with minPages }]
  required := 0
  start
  strict := true

def projectRecord (start : Project) : Record Project where
  name := "ProjectConfig"
  fields := [
    field "business_name" (readOptional readText) fun p businessName => { p with businessName },
    field "domain" (readOptional readText) fun p domain => { p with domain },
    field "email" (readOptional readText) fun p email => { p with email },
    field "phone" (readOptional readText) fun p phone => { p with phone }]
  required := 0
  start
  strict := true

def processingRecord (start : Settings) : Record Settings where
  name := "ProcessingConfig"
  fields := [
    field "max_processes" (readOptional readSize) fun s maxProcesses => { s with maxProcesses }]
  required := 0
  start
  strict := true

-- The settings; each section starts from the defaults.
def record : Record Settings where
  name := "MenuConfig"
  fields := [
    { name := "languages"
      store := fun s d => do
        return { s with languages := ← (languagesRecord s.languages).read d } },
    { name := "parse", store := fun s d => (parseRecord s).read d },
    { name := "validation", store := fun s d => (validationRecord s).read d },
    { name := "project"
      store := fun s d => do return { s with project := ← (projectRecord s.project).read d } },
    { name := "processing", store := fun s d => (processingRecord s).read d }]
  required := 0
  start := default
  strict := true

def ofDatum (d : Datum) : Decoded Settings :=
  record.read d

end Settings

def Project.ofDatum (d : Datum) : Datum.Decoded Project :=
  (Settings.projectRecord .none).read d

-- Why settings cannot be used.
inductive SettingsError where
  | shape (e : Datum.DecodeError)
  | invalid (fault : SettingsFault)
deriving DecidableEq, Repr

namespace Settings

-- Lays an overlay over the defaults and checks the result.
def resolve (overlay : Option Datum) : Except SettingsError Settings := do
  let base := default.toDatum
  let s ← (ofDatum (overlay.elim base base.merge)).mapError .shape
  s.check.mapError .invalid
  return s

end Settings

end MenuOutline
