import MenuOutline.Command

-- The program on the file system of the machine.

namespace MenuOutline.Main

-- What a fault of the machine is called here.
def fileError (e : IO.Error) : FileError :=
  match e with
  | .noFileOrDirectory .. => .notFound
  | .alreadyExists .. => .alreadyExists
  | .inappropriateType _ 21 _ => .isADirectory
  | .inappropriateType .. => .notADirectory
  | .invalidArgument _ 36 _ => .nameTooLong
  | e => .other 0 (toString e)

def attempt {α : Type} (action : IO α) : IO (Except FileError α) := do
  match ← action.toBaseIO with
  | .ok a => return .ok a
  | .error e => return .error (fileError e)

-- Something is there unless it cannot be found.
def isThere (p : Path) : IO Bool := do
  match ← attempt (IO.FS.Handle.mk p.toText .read) with
  | .ok _ => return true
  | .error e => return e != .notFound && e != .notADirectory && e != .nameTooLong

def readText (p : Path) : IO (Except FileError String) := do
  match ← attempt (IO.FS.readBinFile p.toText) with
  | .ok bytes => return (String.fromUTF8? bytes).elim (.error .notText) .ok
  | .error e => return .error e

def fileSystem : FileSystem IO where
  isThere
  readText
  makeDirectories p := if p.isEmpty then return .ok () else attempt (IO.FS.createDirAll p.toText)
  writeText p s := attempt (IO.FS.writeFile p.toText s)

def about : Verb → String
  | .parse => "Parse a menu file and show the resulting pages"
  | .check => "Validate one or more menu files without writing anything"
  | .generate => "Write menu.json and the PHP includes for a menu file"
  | .genConfig => "Print a stock config.toml with all options documented"

def help : Topic → List String
  | .program => [
    "Menu, dictionary and URL generator for multilingual PHP sites", "",
    "Usage: menuforge [OPTIONS] <COMMAND>", "",
    "Commands: parse, check, generate, gen-config, help"]
  | .command verb => [about verb]
  | .help => ["Print this message or the help of the given command"]

-- The words of this program in the place of those of the libraries.
def wording : Wording where
  help topic _ := RunResult.lines (help topic)
  usage _ := "error: the arguments are wrong\n\nFor more information, try '--help'.\n"
  syntaxMessage _ := "the text is no TOML\n"
  syntaxFault _ := "the text is no TOML"
  mismatchFault e := Text.quoted e.report

end MenuOutline.Main

def main (args : List String) : IO UInt32 := do
  let result ← MenuOutline.Command.run MenuOutline.Main.wording MenuOutline.Main.fileSystem args
  IO.print result.output
  IO.eprint result.errors
  return result.code.toUInt32
