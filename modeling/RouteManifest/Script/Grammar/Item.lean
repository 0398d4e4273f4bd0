import RouteManifest.Script.Grammar.Statement

/-!
Imports, exports and the other items of a module.
-/

namespace RouteManifest.Script.Grammar

open Read

/-! ### Names and sources of modules -/

inductive ModuleName where
  | word (text : String)
  | text

def moduleName : Read ModuleName := do
  match ← token with
  | .word text _ => step; return .word text
  | .text _ => step; return .text
  | _ => fail

/-- The source of a module with its attributes, which begin on the same line. -/
def source (self : Grammar) : Read Tree := do
  match ← token with
  | .text _ => step
  | _ => fail
  if ← onNewLine then return .nothing
  if (← eatOneOf ["assert", "with"]).isSome then self .objectLiteral else return .nothing

def fromSource (self : Grammar) : Read Tree := do
  expectWord "from"
  let attributes ← source self
  expectEnd
  return attributes

/-- A name between braces, which `as` and another name may follow. -/
structure Specifier where
  start : Place
  name : ModuleName
  isRenamed : Bool

/-- Reads on after `type as`, which makes the specifier one of a type named `as`, or renames what is
named `type`. `newWord` reads a new name. `onlyTypes` tells whether a `type` marks all names, so
that none of them is marked. -/
def typeAs (onlyTypes : Bool) (newWord : Read String) (typePlace asPlace : Place) :
    Read Specifier := do
  unless (← token).isWord do
    noteIf onlyTypes typePlace
    return ⟨asPlace, .word "as", false⟩
  let again := (← newWord) == "as"
  unless again && (← token).isWord do return ⟨typePlace, .word "type", true⟩
  discard newWord
  noteIf onlyTypes typePlace
  return ⟨asPlace, .word "as", true⟩

def renamable (rename : Read Unit) (start : Place) (name : ModuleName) : Read Specifier := do
  let isRenamed ← eatWord "as"
  if isRenamed then rename
  return ⟨start, name, isRenamed⟩

/-- A name between braces with what it is renamed to. A `type` before a word marks a type. -/
def specifier (onlyTypes : Bool) (newWord : Read String) (rename : Read Unit) : Read Specifier := do
  let start ← place
  let first ← moduleName
  let nameStart ← place
  match first, ← token with
  | .word "type", .word text _ =>
      step
      if text == "as" then return ← typeAs onlyTypes newWord start nameStart
      noteIf onlyTypes start
      renamable rename nameStart (.word text)
  | _, _ => renamable rename start first

/-! ### Imports -/

/-- What a name is made to stand for, after an equals sign: a required module or a dotted name. -/
def importedValue : Read Tree := do
  if (← atWord "require") && (← following).token == .mark .openParen then
    step
    step
    match ← token with
    | .text _ => step
    | _ => fail
    expect .closeParen
  else dottedName false
  expectEnd
  return .nothing

/-- An imported name between braces. A string is no name of a variable, so it is renamed. -/
def importSpecifier (onlyTypes : Bool) : Read Unit := do
  let found ← specifier onlyTypes bindingIdentifier (discard bindingIdentifier)
  match found.name with
  | .text => unless found.isRenamed do failAt found.start
  | .word _ => return

/-- When an imported module is run, if not at once. -/
inductive ImportPhase where
  | source
  | defer
  deriving DecidableEq

def importPhase? : String → Option ImportPhase
  | "source" => some .source
  | "defer" => some .defer
  | _ => none

def importedNames (self : Grammar) (onlyTypes : Bool) (phase : Option ImportPhase) : Read Tree := do
  if phase != some .source && (← at? .star) then
    step
    expectWord "as"
    discard bindingIdentifier
  else if phase.isNone && (← at? .openBrace) then
    step
    discard (commaList .closeBrace (importSpecifier onlyTypes))
  fromSource self

/-- Whether the word that has been read as the name of an import is a mark of types, and another
name follows. -/
def marksImport : Read Bool := do
  let next ← following
  if ← atWord "from" then return next.token == .word "from" false || next.token == .mark .assign
  return (← token).isReference

/-- What follows the default name of an import. `first` is the word that has been read as that name,
but may be the phase of the import. -/
def defaultImport (self : Grammar) (onlyTypes : Bool) (first : String) : Read Tree := do
  if ← eat .assign then return ← importedValue
  let phase := importPhase? first
  if phase.isSome && (← at? .star) then return ← importedNames self onlyTypes phase
  let names := (← token).isReference && !(← atWord "from")
  let phased := phase.isSome && (names || (← following).token == .word "from" false)
  if phased then discard bindingIdentifier
  unless ← atWord "from" do expect .comma
  importedNames self onlyTypes (if phased then phase else none)

def importItem (self : Grammar) : Read Tree := do
  expectWord "import"
  if let .text _ ← token then
    let attributes ← source self
    discard eatEnd
    return attributes
  unless (← token).isReference do return ← importedNames self false none
  let first ← bindingIdentifier
  unless first == "type" do return ← defaultImport self false first
  if (← at? .star) || (← at? .openBrace) then return ← importedNames self true none
  if ← marksImport then defaultImport self true (← bindingIdentifier)
  else defaultImport self false first

/-! ### Exports -/

/-- The decorators of an exported class, which stand either before or after its keyword. -/
def exportedMarks (self : Grammar) (marks : List Tree) : Read (List Tree) := do
  let start ← place
  let more ← Grammar.decorators self
  if more.isEmpty then return marks
  unless marks.isEmpty do failAt start
  return more

def exportedDefault (self : Grammar) (marks : List Tree) : Read Tree := do
  let marks ← exportedMarks self marks
  let next ← following
  if ← atWord "abstract" then
    if next.token == .word "class" false && !next.lineEnd then
      step
      return .defaultExport (← self (.class .expression false true marks))
    if next.token == .word "interface" false then
      note (← place)
      step
  if ← eatWord "interface" then return .defaultExport (← interface self)
  if ← atWord "class" then return .defaultExport (← self (.class .expression false false marks))
  if ← beginsAsyncFunction then
    step
    return .defaultExport (← functionDeclaration self true false marks)
  if ← atWord "function" then
    return .defaultExport (← functionDeclaration self false false marks)
  let value ← allowingIn (self .assignment)
  expectEnd
  return value

/-- Notes what is wrong with an exported name whose module is not told: it stands for a variable. -/
def checkExported (found : Specifier) : Read Unit :=
  match found.name with
  | .word text => noteIf (reservedWords.contains text || text == "package") found.start
  | .text => note found.start

/-- Exported names, after a `type` that marks them all. Where no source follows them, the next item
may follow at once. -/
def exportedNames (self : Grammar) (onlyTypes : Bool) : Read Tree := do
  if ← eat .star then
    if ← eatWord "as" then discard moduleName
    return ← fromSource self
  expect .openBrace
  let found ← commaList .closeBrace (specifier onlyTypes anyWord (discard moduleName))
  if ← atWord "from" then return ← fromSource self
  found.forM checkExported
  discard eatEnd
  return .nothing

def exportedDeclaration? (self : Grammar) (marks : List Tree) : Read (Option Tree) := do
  if ← atWord "class" then return some (← self (.class .declaration true false marks))
  if ← beginsAsyncFunction then
    step
    return some (← functionDeclaration self true true marks)
  if ← atWord "function" then return some (← functionDeclaration self false true marks)
  if ← beginsConstEnum then return some (← constantEnumeration self)
  if ← beginsVariables then return some (← variableList self)
  return none

def exportedRest (self : Grammar) (line : Nat) (marks : List Tree) : Read Tree := do
  let onlyTypes ← eatWord "type"
  if !onlyTypes && (← atWord "default") then
    step
    return ← exportedDefault self marks
  let marks ← exportedMarks self marks
  unless onlyTypes do
    if let some tree ← exportedDeclaration? self marks then return .exported line tree
  exportedNames self onlyTypes

/-- An export from its keyword on. A declaration that is introduced by a word which may also be a
name is only tried. A `declare` that no declaration of code from elsewhere follows makes no
difference. -/
def exportItem (self : Grammar) (marks : List Tree) : Read Tree := do
  let line := lineAt (← read).text (← place)
  expectWord "export"
  let start ← place
  if ← eatWord "declare" then
    if let some tree ← ambientDeclaration? self start marks then return .exported line tree
  if let some (some tree) ← attempt (introduced? self marks) then return .exported line tree
  if ← eatWord "import" then
    discard (eatWord "type")
    discard anyWord
    expect .assign
    return ← importedValue
  if ← eat .assign then
    let value ← self .expression
    expectEnd
    return value
  if ← eatWord "as" then
    expectWord "namespace"
    discard identifier
    expectEnd
    return .nothing
  exportedRest self line marks

/-! ### Items -/

def item (self : Grammar) : Read Tree := do
  let marks ← Grammar.decorators self
  if ← atWord "export" then return ← exportItem self marks
  unless ← atWord "import" do return ← statementAfter self true marks
  match (← following).token with
  | .mark .openParen | .mark .dot => importStatement self
  | _ => importItem self

end RouteManifest.Script.Grammar
