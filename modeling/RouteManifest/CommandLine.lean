import RouteManifest.Command

/-!
Command lines: a verb and then switches and operands, in any order. A switch is written in full
after two dashes or as one letter after one, letters can be put together, and a value follows its
switch as the next argument, after an equals sign, or right after the letter. Two dashes alone end
the switches.
-/

namespace RouteManifest.CommandLine

/-- Why arguments ask for no command. -/
inductive Stop where
  | unknownArgument
  | unknownCommand
  | missingArgument
  | invalidValue
  | repeatedSwitch
  /-- A switch that takes no value is given one. -/
  | unneededValue
  /-- The user asks how to use the program. -/
  | help
  /-- The user asks for the program's version. -/
  | version
  deriving DecidableEq, Inhabited

def Stop.message : Stop → String
  | .unknownArgument => "unexpected argument"
  | .unknownCommand => "unrecognized command"
  | .missingArgument => "a required argument was not given"
  | .invalidValue => "a value is missing or empty"
  | .repeatedSwitch => "an option cannot be used more than once"
  | .unneededValue => "an option that takes no value was given one"
  | .help | .version => ""

def usage : String :=
  String.intercalate "\n" [
    "Usage: routable [COMMAND]",
    "",
    "Commands:",
    "  generate  Scan for routable files and write the manifest module",
    "  list      Scan for routable files and list their match patterns",
    "  resolve   Resolve a module id",
    "  init      Make a .routablerc.json configuration file",
    "  help      Print this text",
    "",
    "Options of generate and list:",
    "      --root <ROOT>   Project root directory",
    "      --paths <DIR>   Directories to scan, in place of the configured ones",
    "  -v, --verbose       Report files without patterns",
    "",
    "Options of generate:",
    "  -o, --output <FILE>  Write the manifest to this file",
    "",
    "Options of list:",
    "      --json          Print the registry as JSON"]

/-! ### Switches -/

inductive Switch where
  | root | paths | verbose | output | json | help | version
  deriving DecidableEq, Inhabited

namespace Switch

/-- What stands after two dashes. -/
def long : Switch → String
  | .root => "root"
  | .paths => "paths"
  | .verbose => "verbose"
  | .output => "output"
  | .json => "json"
  | .help => "help"
  | .version => "version"

/-- What stands after one dash. -/
def short? : Switch → Option Char
  | .verbose => some 'v'
  | .output => some 'o'
  | .help => some 'h'
  | .version => some 'V'
  | .root | .paths | .json => none

def takesValue : Switch → Bool
  | .root | .paths | .output => true
  | .verbose | .json | .help | .version => false

def accumulates : Switch → Bool
  | .paths => true
  | _ => false

/-- Whether the switch takes this value. The empty text names no place. -/
def accepts : Switch → String → Bool
  | .root, value | .output, value => !value.isEmpty
  | _, _ => true

end Switch

/-! ### Arguments -/

inductive Word where
  | endOfSwitches
  /-- A switch in full, with the value after an equals sign if there is one. -/
  | long (name : String) (value : Option String)
  /-- Letters after one dash. -/
  | short (letters : List Char)
  | plain

/-- A text cut at its first equals sign. -/
def cutAtEquals (text : List Char) : String × Option String :=
  match text.dropWhile (· != '=') with
  | _ :: value => (String.ofList (text.takeWhile (· != '=')), some (String.ofList value))
  | [] => (String.ofList text, none)

/-- The shape of an argument. One dash alone is plain. -/
def Word.ofText (text : String) : Word :=
  match text.toList with
  | ['-', '-'] => .endOfSwitches
  | '-' :: '-' :: rest => .long (cutAtEquals rest).1 (cutAtEquals rest).2
  | ['-'] => .plain
  | '-' :: letters => .short letters
  | _ => .plain

structure Form where
  switches : List Switch
  operands : Nat := 0

def Form.ofLong? (form : Form) (name : String) : Option Switch :=
  form.switches.find? (·.long == name)

def Form.ofShort? (form : Form) (letter : Char) : Option Switch :=
  form.switches.find? (·.short? == some letter)

structure Given where
  /-- The switches and their values. A switch that takes no value has an empty one. -/
  values : List (Switch × String) := []
  operands : List String := []
  /-- The last switch if its value was to be the next argument, and that argument once it is there.
  It counts only when the next switch begins or the arguments end. -/
  pending : Option (Switch × Option String) := none
  deriving Inhabited

namespace Given

def has (given : Given) (switch : Switch) : Bool := given.values.any (·.1 == switch)

def valuesOf (given : Given) (switch : Switch) : List String :=
  (given.values.filter (·.1 == switch)).map (·.2)

def value? (given : Given) (switch : Switch) : Option String := (given.valuesOf switch).head?

def add (given : Given) (switch : Switch) (value : String) : Except Stop Given :=
  if switch = .help then .error .help
  else if switch = .version then .error .version
  else if given.has switch && !switch.accumulates then .error .repeatedSwitch
  else if !switch.accepts value then .error .invalidValue
  else .ok { given with values := given.values ++ [(switch, value)] }

/-- Adds the switch that is pending, which must have its value. -/
def settle (given : Given) : Except Stop Given :=
  match given.pending with
  | none => .ok given
  | some (_, none) => .error .invalidValue
  | some (switch, some value) => { given with pending := none }.add switch value

def switch (given : Given) (switch : Switch) (attached : Option String) : Except Stop Given := do
  let given ← given.settle
  match switch.takesValue, attached with
  | true, none => return { given with pending := some (switch, none) }
  | true, some value => given.add switch value
  | false, _ => given.add switch ""

def operand (form : Form) (given : Given) (text : String) : Except Stop Given := do
  if given.operands.length < form.operands then
    let given ← given.settle
    return { given with operands := given.operands ++ [text] }
  else throw .unknownArgument

/-- Takes a switch in full. -/
def long (form : Form) (given : Given) (name : String) (attached : Option String) :
    Except Stop Given :=
  match form.ofLong? name with
  | none => .error .unknownArgument
  | some switch =>
      if attached.isSome && !switch.takesValue then .error .unneededValue
      else given.switch switch attached

/-- The value that is attached to a letter, which an equals sign may set apart. -/
def attached? : List Char → Option String
  | [] => none
  | '=' :: value => some (String.ofList value)
  | value => some (String.ofList value)

/-- Takes letters one by one. What follows a switch that takes a value is its value. -/
def short (form : Form) (given : Given) : List Char → Except Stop Given
  | [] => .ok given
  | letter :: rest =>
      match form.ofShort? letter with
      | none => .error .unknownArgument
      | some switch =>
          if switch.takesValue then given.switch switch (attached? rest)
          else do short form (← given.switch switch none) rest

def readOperands (form : Form) (given : Given) : List String → Except Stop Given
  | [] => given.settle
  | text :: rest => do readOperands form (← given.operand form text) rest

def read (form : Form) (given : Given) : List String → Except Stop Given
  | [] => given.settle
  | text :: rest =>
      match Word.ofText text with
      | .endOfSwitches => readOperands form given rest
      | .long name attached => do read form (← given.long form name attached) rest
      | .short letters => do read form (← given.short form letters) rest
      | .plain =>
          match given.pending with
          | some (switch, none) => read form { given with pending := some (switch, some text) } rest
          | _ => do read form (← given.operand form text) rest

end Given

/-! ### Verbs -/

inductive Verb where
  | generate | list | resolve | init
  deriving DecidableEq, Inhabited

namespace Verb

def word : Verb → String
  | .generate => "generate"
  | .list => "list"
  | .resolve => "resolve"
  | .init => "init"

def all : List Verb := [.generate, .list, .resolve, .init]

def ofWord? (text : String) : Option Verb := all.find? (·.word == text)

def form : Verb → Form
  | .generate => { switches := [.root, .paths, .verbose, .output, .help] }
  | .list => { switches := [.root, .paths, .verbose, .json, .help] }
  | .resolve => { switches := [.help], operands := 1 }
  | .init => { switches := [.help] }

/-- The directories in a value, with commas between them. -/
def directories (value : String) : List String := value.splitOn ","

/-- The options of a scan. The root may also come from a variable, which counts only if the switch
is absent. -/
def scanOptions (rootVariable : Option String) (given : Given) : Except Stop ScanOptions := do
  let root := (given.value? .root).or rootVariable
  if root = some "" then throw .invalidValue
  return {
    root := root.map Path.mk
    paths := (given.valuesOf .paths).flatMap directories
    verbose := given.has .verbose }

/-- The command that a verb makes of what was given. -/
def command (rootVariable : Option String) (given : Given) : Verb → Except Stop Command
  | .generate =>
      return .generate (← scanOptions rootVariable given) ((given.value? .output).map Path.mk)
  | .list => return .list (← scanOptions rootVariable given) (given.has .json)
  | .resolve =>
      match given.operands with
      | id :: _ => .ok (.resolve id)
      | [] => .error .missingArgument
  | .init => .ok .init

end Verb

/-! ### The whole line -/

def helpWord : String := "help"

def isCommandWord (text : String) : Bool := (Verb.ofWord? text).isSome || text == helpWord

/-- What comes of asking for help on some words: help, if at most one word is asked for and it can
come first. -/
def helpOn : List String → Stop
  | [] => .help
  | [text] => if isCommandWord text then .help else .unknownCommand
  | _ => .unknownCommand

/-- What can stand before a verb. -/
def topForm : Form := { switches := [.help, .version] }

/-- The command that arguments ask for. No arguments ask for nothing. -/
def parse (rootVariable : Option String) : List String → Except Stop (Option Command)
  | [] => .ok none
  | text :: rest =>
      match Verb.ofWord? text with
      | some verb => do
          let given ← Given.read verb.form {} rest
          return some (← verb.command rootVariable given)
      | none =>
          if text = helpWord then .error (helpOn rest)
          else
            match Word.ofText text with
            | .endOfSwitches =>
                match rest with
                | [] => .ok none
                | next :: _ =>
                    .error (if isCommandWord next then .unknownArgument else .unknownCommand)
            | .long name attached => do
                let _ ← Given.long topForm {} name attached
                parse rootVariable rest
            | .short letters => do
                let _ ← Given.short topForm {} letters
                parse rootVariable rest
            | .plain => .error .unknownCommand

end RouteManifest.CommandLine
