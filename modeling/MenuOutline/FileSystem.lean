-- Paths, and what a program asks of a file system.

namespace MenuOutline

-- A path as the steps from a directory, each a name, a dot or two dots. A slash at the end is a
-- last step that is a dot.
structure Path where
  isAbsolute : Bool
  steps : List String
deriving DecidableEq, Repr

namespace Path

def splitSteps (name : List Char) : List Char → List (List Char)
  | [] => [name]
  | c :: cs => if c = '/' then name :: splitSteps [] cs else splitSteps (name ++ [c]) cs

def ofString (s : String) : Path :=
  let names := splitSteps [] s.toList
  let trailing := if 1 < names.length ∧ names.getLast? = some [] then ["."] else []
  { isAbsolute := s.toList.head? = some '/'
    steps := (names.filter (· ≠ [])).map String.ofList ++ trailing }

-- The steps without the dots that change nothing; a dot at the start of a relative path stays.
def plainSteps (p : Path) : List String :=
  match p.isAbsolute, p.steps with
  | false, "." :: steps => "." :: steps.filter (· ≠ ".")
  | _, steps => steps.filter (· ≠ ".")

-- The path without its last step.
def parent? (p : Path) : Option Path :=
  if p.plainSteps.isEmpty then none else some { p with steps := p.plainSteps.dropLast }

def child (p : Path) (name : String) : Path :=
  { p with steps := p.steps ++ [name] }

def isEmpty (p : Path) : Bool :=
  !p.isAbsolute && p.steps.isEmpty

-- The directory of a file: the working directory when the path names no other.
def directory (p : Path) : Path :=
  match p.parent? with
  | some dir => if dir.isEmpty then { isAbsolute := false, steps := ["."] } else dir
  | none => { isAbsolute := false, steps := ["."] }

def toText (p : Path) : String :=
  (if p.isAbsolute then "/" else "") ++ "/".intercalate p.steps

-- The text of a path with a name after it.
def joinText (dir name : String) : String :=
  if dir.isEmpty || dir.toList.getLast? = some '/' then dir ++ name else dir ++ "/" ++ name

end Path

-- Why a file cannot be read or written.
inductive FileError where
  | notFound
  | alreadyExists
  | notADirectory
  | isADirectory
  | nameTooLong
  -- A fault of the system that has no name here.
  | other (code : Nat) (text : String)
  | nulInName
  | notText
deriving DecidableEq, Repr

-- What a program asks of a file system.
structure FileSystem (m : Type → Type) where
  isThere : Path → m Bool
  readText : Path → m (Except FileError String)
  -- Makes a directory and those above it, as far as they are missing.
  makeDirectories : Path → m (Except FileError Unit)
  writeText : Path → String → m (Except FileError Unit)

namespace FileError

-- The system's number, kind and text.
def system? : FileError → Option (Nat × String × String)
  | notFound => some (2, "NotFound", "No such file or directory")
  | alreadyExists => some (17, "AlreadyExists", "File exists")
  | notADirectory => some (20, "NotADirectory", "Not a directory")
  | isADirectory => some (21, "IsADirectory", "Is a directory")
  | nameTooLong => some (36, "InvalidFilename", "File name too long")
  | other code text => some (code, "Uncategorized", text)
  | nulInName | notText => none

def ownText : FileError → String
  | nulInName => "file name contained an unexpected NUL byte"
  | _ => "stream did not contain valid UTF-8"

def message (e : FileError) : String :=
  match e.system? with
  | some (code, _, text) => text ++ " (os error " ++ toString code ++ ")"
  | none => e.ownText

end FileError

end MenuOutline
