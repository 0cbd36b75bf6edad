import MenuOutline.FileSystem

-- A file system held in memory: the files and directories below a working directory. Nothing is
-- known of what lies outside it, and nothing is found there.

namespace MenuOutline

inductive Node where
  | directory
  | file (content : ByteArray)
  -- A further name of the file with these names.
  | link (names : List String)
  -- Takes what is written and keeps nothing of it.
  | device

instance : DecidableEq Node
  | .directory, .directory | .device, .device => isTrue rfl
  | .file a, .file b =>
    match ByteArray.instDecidableEq a b with
    | isTrue h => isTrue (congrArg Node.file h)
    | isFalse h => isFalse fun he => h (Node.file.inj he)
  | .link a, .link b => decidable_of_iff (a = b) ⟨congrArg Node.link, Node.link.inj⟩
  | .directory, .file _ | .directory, .link _ | .directory, .device
  | .file _, .directory | .file _, .link _ | .file _, .device
  | .link _, .directory | .link _, .file _ | .link _, .device
  | .device, .directory | .device, .file _ | .device, .link _ => isFalse nofun

-- The nodes below the working directory, each with the names that lead to it. A directory comes
-- before what it holds.
abbrev Disk := List (List String × Node)

namespace Disk

-- A directory reached on the way: one below the working directory, or one outside.
inductive Place where
  | inside (names : List String)
  | outside
deriving DecidableEq

def node? (disk : Disk) : Place → Option Node
  | .inside [] | .outside => some .directory
  | .inside names => disk.lookup names

-- The place one step further, whether or not there is something.
def step (place : Place) (name : String) : Place :=
  match place with
  | .outside => .outside
  | .inside names =>
    if name = "." then place
    else if name = ".." then (if names.isEmpty then .outside else .inside names.dropLast)
    else .inside (names ++ [name])

def isName (name : String) : Bool :=
  name != "." && name != ".."

-- Goes one step to something that exists.
def enter (disk : Disk) (place : Place) (name : String) : Except FileError Place :=
  match disk.node? place with
  | none => .error .notFound
  | some .directory =>
    if 255 < name.utf8ByteSize then .error .nameTooLong
    else if place = .outside ∧ isName name then .error .notFound
    else if (disk.node? (step place name)).isSome then .ok (step place name)
    else .error .notFound
  | some _ => .error .notADirectory

def enterAll (disk : Disk) (place : Place) : List String → Except FileError Place
  | [] => .ok place
  | name :: names => do enterAll disk (← disk.enter place name) names

def start (p : Path) : Except FileError Place :=
  if p.isEmpty then .error .notFound
  else if p.steps.any (·.toList.contains '\x00') then .error .nulInName
  else .ok (if p.isAbsolute then .outside else .inside [])

-- The place that is meant: that of the file where there is a further name of it.
def origin (disk : Disk) (place : Place) : Except FileError Place :=
  match disk.node? place with
  | some (.link names) =>
    match disk.node? (.inside names) with
    | some (.file _) => .ok (.inside names)
    | _ => .error .notFound
  | _ => .ok place

-- The place that a path leads to.
def locate (disk : Disk) (p : Path) : Except FileError Place := do
  disk.origin (← disk.enterAll (← start p) p.steps)

-- The place where the last step of a path leads, whether or not something is there.
def locateNew (disk : Disk) (p : Path) : Except FileError Place := do
  let dir ← disk.enterAll (← start p) p.steps.dropLast
  match disk.enter dir (p.steps.getLastD ".") with
  | .ok place => return place
  | .error .notFound =>
    if dir = .outside then .error .notFound else return step dir (p.steps.getLastD ".")
  | .error e => .error e

def isThere (disk : Disk) (p : Path) : Bool :=
  (disk.locate p).isOk

def isDirectory (disk : Disk) (p : Path) : Bool :=
  match disk.locate p with
  | .ok place => disk.node? place = some .directory
  | .error _ => false

def readText (disk : Disk) (p : Path) : Except FileError String := do
  match disk.node? (← disk.locate p) with
  | some (.file content) =>
    match String.fromUTF8? content with
    | some s => return s
    | none => .error .notText
  | some .device => return ""
  | _ => .error .isADirectory

def put (disk : Disk) (names : List String) (n : Node) : Disk :=
  disk.filter (·.1 ≠ names) ++ [(names, n)]

def write (disk : Disk) (p : Path) (content : ByteArray) : Except FileError Disk := do
  match ← disk.origin (← disk.locateNew p) with
  | .outside => .error .isADirectory
  | .inside names =>
    match disk.node? (.inside names) with
    | some .directory => .error .isADirectory
    | some .device => return disk
    | _ => return disk.put names (.file content)

-- Makes one directory, where nothing may stand yet.
def makeDirectory (disk : Disk) (p : Path) : Except FileError Disk := do
  let p := { p with steps := if p.plainSteps = [] then p.steps else p.plainSteps }
  match ← disk.locateNew p with
  | .outside => .error .alreadyExists
  | .inside names =>
    if (disk.node? (.inside names)).isSome then .error .alreadyExists
    else return disk.put names .directory

-- Makes a directory, and first the one above it where that is missing.
def makeDirectoriesAt (disk : Disk) (p : Path) : Nat → Except FileError Disk
  | 0 => .error .notFound
  | fuel + 1 =>
    if p.isEmpty then .ok disk
    else match disk.makeDirectory p with
      | .ok disk => .ok disk
      | .error .notFound =>
        match p.parent? with
        | none => .error .notFound
        | some parent => do
          let disk ← disk.makeDirectoriesAt parent fuel
          match disk.makeDirectory p with
          | .ok disk => .ok disk
          | .error e => if disk.isDirectory p then .ok disk else .error e
      | .error e => if disk.isDirectory p then .ok disk else .error e

def makeDirectories (disk : Disk) (p : Path) : Except FileError Disk :=
  disk.makeDirectoriesAt p (p.steps.length + 2)

-- Keeps the disk as it is when a change fails.
def change (f : Disk → Except FileError Disk) : StateM Disk (Except FileError Unit) := fun disk =>
  match f disk with
  | .ok disk => (.ok (), disk)
  | .error e => (.error e, disk)

-- The requests of a program, answered from memory.
def fileSystem : FileSystem (StateM Disk) where
  isThere p := fun disk => (disk.isThere p, disk)
  readText p := fun disk => (disk.readText p, disk)
  makeDirectories p := change (·.makeDirectories p)
  writeText p s := change (·.write p s.toUTF8)

end Disk

end MenuOutline
