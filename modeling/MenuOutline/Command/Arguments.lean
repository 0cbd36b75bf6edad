import MenuOutline.Settings.File

-- Arguments of the command line. Options stand before or after the other arguments of a command;
-- two hyphens end them. The language options may stand before the command too, and count less
-- there.

namespace MenuOutline

-- The commands.
inductive Verb where
  | parse
  | check
  | generate
  | genConfig
deriving DecidableEq, Repr

namespace Verb

def ofName? (s : String) : Option Verb :=
  match s with
  | "parse" => some parse
  | "check" => some check
  | "generate" => some generate
  | "gen-config" => some genConfig
  | _ => none

-- Whether a command takes one more file after so many.
def takesOperand : Verb → Nat → Bool
  | parse, count | generate, count => count = 0
  | check, _ => true
  | genConfig, _ => false

end Verb

-- What help is about.
inductive Topic where
  | program
  | command (verb : Verb)
  | help
deriving DecidableEq, Repr

-- The topic of the command that asks for help, given the names behind it.
def Topic.ofNames? : List String → Option Topic
  | [] => some program
  | ["help"] => some help
  | [name] => (Verb.ofName? name).map command
  | _ => none

-- What is asked for.
inductive Request where
  | parse (menu : String) (json : Bool)
  | check (menus : List String)
  | generate (menu output : String)
  | genConfig
  | version
  | help (topic : Topic) (long : Bool)
deriving DecidableEq, Repr

structure Invocation where
  flags : Settings.LanguageFlags
  request : Request
deriving DecidableEq, Repr

namespace Arguments

-- The options met so far, and the other arguments.
structure Given where
  primary : Option String
  secondary : Option String
  output : Option String
  json : Bool
  operands : List String
deriving DecidableEq, Repr

namespace Given

def empty : Given where
  primary := none
  secondary := none
  output := none
  json := false
  operands := []

-- Takes the value of an option, which may be given once.
def setValue? (g : Given) (name value : String) : Option Given :=
  match name with
  | "--primary" => if g.primary.isSome then none else some { g with primary := some value }
  | "--secondary" => if g.secondary.isSome then none else some { g with secondary := some value }
  | "--output" =>
    if g.output.isSome || value.isEmpty then none else some { g with output := some value }
  | _ => none

-- Takes an argument that names a file, if the command takes it.
def addOperand? (verb : Verb) (g : Given) (s : String) : Option Given :=
  if s.isEmpty || !verb.takesOperand g.operands.length then none
  else some { g with operands := g.operands ++ [s] }

def addOperands? (verb : Verb) (g : Given) : List String → Option Given
  | [] => some g
  | s :: ss => (g.addOperand? verb s).bind (addOperands? verb · ss)

end Given

def looksLikeOption (s : String) : Bool :=
  s.toList.head? = some '-' && s != "-"

-- Options of one letter may be written together; the first one counts where it ends the reading.
def startsShort (letter : Char) (s : String) : Bool :=
  ['-', letter].isPrefixOf s.toList

-- An option and its value in one argument.
def splitOption? (s : String) : Option (String × String) :=
  match s.toList.span (· != '=') with
  | (name, _ :: value) => some (.ofList name, .ofList value)
  | _ => none

def valueOptions (verb : Option Verb) : List String :=
  ["--primary", "--secondary"] ++ if verb = some .generate then ["--output"] else []

-- How reading the arguments of a command ended.
inductive Outcome where
  | given (g : Given)
  | help (long : Bool)
  | wrong
deriving DecidableEq, Repr

def Outcome.ofOption : Option Given → Outcome
  | some g => .given g
  | none => .wrong

-- Reads the arguments after a command.
def readOptions (verb : Verb) (g : Given) : List String → Outcome
  | [] => .given g
  | "--" :: rest => .ofOption (g.addOperands? verb rest)
  | "--help" :: _ => .help true
  | s :: rest =>
    if startsShort 'h' s then .help false
    else if !looksLikeOption s then
      match g.addOperand? verb s with
      | some g => readOptions verb g rest
      | none => .wrong
    else if s = "--json" ∧ verb = .parse then
      if g.json then .wrong else readOptions verb { g with json := true } rest
    else if (valueOptions verb).contains s then
      match rest with
      | value :: rest =>
        if looksLikeOption value then .wrong
        else match g.setValue? s value with
          | some g => readOptions verb g rest
          | none => .wrong
      | [] => .wrong
    else
      match splitOption? s with
      | some (name, value) =>
        if (valueOptions verb).contains name then
          match g.setValue? name value with
          | some g => readOptions verb g rest
          | none => .wrong
        else .wrong
      | none => .wrong

-- The request of a command with its operands.
def request? (verb : Verb) (g : Given) : Option Request :=
  match verb, g.operands with
  | .parse, [menu] => some (.parse menu g.json)
  | .check, menu :: menus => some (.check (menu :: menus))
  | .generate, [menu] => some (.generate menu (g.output.getD "dist"))
  | .genConfig, [] => some .genConfig
  | _, _ => none

-- The invocation of a command whose own options are read, after those before it.
def ofCommand? (outer : Given) (verb : Verb) (args : List String) : Option Invocation :=
  let invocation (inner : Given) (request : Request) : Invocation :=
    { flags := {
        primary := inner.primary.or outer.primary
        secondary := inner.secondary.or outer.secondary }
      request }
  match readOptions verb .empty args with
  | .given g => (request? verb g).map (invocation g)
  | .help long => some (invocation .empty (.help (.command verb) long))
  | .wrong => none

-- A request that no flags belong to.
def plain (request : Request) : Invocation where
  flags := { primary := none, secondary := none }
  request

-- Reads the arguments before the command.
def readCommand? (g : Given) : List String → Option Invocation
  | [] => none
  | "--version" :: _ => some (plain .version)
  | "--help" :: _ => some (plain (.help .program true))
  | "help" :: names => (Topic.ofNames? names).map fun topic => plain (.help topic true)
  | s :: rest =>
    if startsShort 'V' s then some (plain .version)
    else if startsShort 'h' s then some (plain (.help .program false))
    else if looksLikeOption s then
      if (valueOptions none).contains s then
        match rest with
        | value :: rest =>
          if looksLikeOption value then none
          else (g.setValue? s value).bind (readCommand? · rest)
        | [] => none
      else do
        let (name, value) ← splitOption? s
        if (valueOptions none).contains name then
          readCommand? (← g.setValue? name value) rest
        else none
    else do ofCommand? g (← Verb.ofName? s) rest

end Arguments

-- What the arguments ask for, unless they are wrong.
def Invocation.ofArguments? (args : List String) : Option Invocation :=
  Arguments.readCommand? .empty args

end MenuOutline
