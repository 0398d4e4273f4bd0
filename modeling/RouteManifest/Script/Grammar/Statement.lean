import RouteManifest.Script.Grammar.Class

/-!
Statements and declarations. A declaration may begin with a word that is also a name, such as `type`
or `declare`. Most of those are recognised only after the word has been read as an expression.
-/

namespace RouteManifest.Script.Grammar

open Read

/-! ### Small parts -/

/-- What stands between braces. A text that ends before the closing brace is only a fault. -/
def braced (item : Read Tree) : Read Tree := do
  expect .openBrace
  Tree.group <$> many do
    if ← eat .closeBrace then return none
    if (← token) == .endOfText then
      note (← place)
      return none
    return some (← item)

def block (self : Grammar) : Read Tree := braced (self (.statement true))

def condition (self : Grammar) : Read Tree := do
  expect .openParen
  let test ← allowingIn (self .expression)
  expect .closeParen
  return test

def loopBody (self : Grammar) : Read Tree :=
  inContext (fun context =>
    { context with breakable := true, continuable := true, inLoopHead := false })
    (self (.statement false))

/-- What makes a statement of an expression that begins at `start`. Where the statement cannot end,
an operator is only a fault. -/
def expressionEnd (self : Grammar) (start : Place) (tree : Tree) : Read Tree := do
  if ← eatEnd then return tree
  unless (← markedOperator?).isSome do fail
  note (← place)
  operations self (← read).limit 0 start tree

/-! ### Variables -/

inductive VariableKind where
  | plain
  | scoped
  | constant
  deriving DecidableEq

def variableKind : Token → VariableKind
  | .word "let" false => .scoped
  | .word "const" false => .constant
  | _ => .plain

/-- Whether the word `let` begins a declaration when the given token follows it. -/
def followsLet (token : Token) : Bool :=
  token == .mark .openBrace || token == .mark .openBracket || token.isIdentifier

def beginsVariables : Read Bool := do
  match ← token with
  | .word "var" false | .word "const" false => return true
  | .word "let" false => return followsLet (← following).token
  | _ => return false

def atOfOrIn : Read Bool := do return (← atWord "of") || (← atWord "in")

/-- A declared variable. `inFor` tells whether it stands in the head of a loop. No name that is
declared for a block is `let`. A constant has a value, and so has a pattern, except in the head of a
loop over values or keys. -/
def declarator (self : Grammar) (kind : VariableKind) (inFor : Bool) : Read Tree := do
  let start ← place
  if kind != .plain && (← atWord "let") then fail
  let target ← self .binding
  if target.isName then discard (eat .not)
  let type ← typeAnnotation self
  if inFor && (← atOfOrIn) then return .declarator target type none
  let value ← initializer? self
  unless value.isSome || (← read).ambient do
    if kind == .constant && !inFor then note start
    else unless target.isName do failAt start
  return .declarator target type value

/-- Declared variables, separated by commas, and where each begins. A semicolon in place of one is a
fault, for which the token before it is blamed, or the place `gap` if there is none. -/
def declaratorList (self : Grammar) (kind : VariableKind) (inFor : Bool) : Nat → Option Place →
    Read (List (Place × Tree))
  | 0, _ => fail
  | limit + 1, gap => do
      if ← at? .semicolon then
        note (gap.getD (← previousPlace))
        return []
      let start ← place
      let item := declarator self kind inFor
      let first ← if kind == .plain && inFor then item else allowingIn item
      unless ← eat .comma do return [(start, first)]
      return (start, first) :: (← declaratorList self kind inFor limit none)

def declarators (self : Grammar) (inFor : Bool) : Read (List (Place × Tree)) := do
  let kind := variableKind (← token)
  let gap := (← get).current.rest
  step
  declaratorList self kind inFor (← read).limit (some gap)

/-- Ends a declaration of variables. Where it cannot end, everything up to the next place where it
can is passed over. -/
def endVariables (self : Grammar) : Read Unit := do
  unless ← eatEnd do
    note (← place)
    recover (discard (self .expression)) fun _ => return
    discard <| many do
      if ← eatEnd then return none
      step
      if let .unreadable _ ← token then return none
      return some ()

def variableList (self : Grammar) : Read Tree := do
  let declared ← declarators self false
  endVariables self
  return .variableList (declared.map (·.2))

/-- Whether a declared variable may be a resource, which is a name and has a value. -/
def declaresResource : Tree → Bool
  | .declarator target _ value => target.isName && value.isSome
  | _ => false

/-- A declaration of resources from its word on. `start` is where it begins. -/
def resources (self : Grammar) (start : Place) : Read Tree := do
  step
  let first ← declarator self .plain false
  let rest ← many do
    if ← eat .comma then return some (← declarator self .plain false)
    return none
  let declared := first :: rest
  noteIf (!declared.all declaresResource) start
  expectEnd
  return .variableList declared

/-- Whether a declaration of resources begins at the current token. -/
def beginsResources : Read Bool := do
  let next ← following
  return (← atWord "using") && !next.lineEnd && next.token.isReference

/-- What begins with `await using`: an awaited declaration of resources, or an expression, after
which the next statement may follow at once. -/
def awaitedResources (self : Grammar) : Read Tree := do
  let start ← place
  step
  if ← beginsResources then return ← resources self start
  let first ← awaited self start
  let tree ← allowingIn (operations self (← read).limit 0 start first)
  discard eatEnd
  return tree

/-! ### Declarations of types and namespaces -/

/-- Whether the key of a member of an enumeration may stand in brackets: a string, or a template
without substitutions. -/
def isConstantKey (isTemplate : Bool) : Tree → Bool
  | .text _ => true
  | .group [] => isTemplate
  | _ => false

/-- The key of a member of an enumeration. One that is a number or has to be computed is a fault. -/
def enumKey (self : Grammar) : Read Unit := do
  let start ← place
  match ← token with
  | .text _ => step
  | .number =>
      step
      note start
  | .mark .openBracket =>
      step
      let isTemplate ← at? .backquote
      let computed ← self .expression
      expect .closeBracket
      noteIf (!isConstantKey isTemplate computed) start
  | _ => discard anyWord

/-- A member of an enumeration, with the comma behind it. After a value a missing comma is only a
fault. After a key that has no value it is one as well, and two tokens are passed over. -/
def enumMember (self : Grammar) : Read Tree := do
  enumKey self
  let value? ← initializer? self
  let found ← eat .comma
  unless found || (← at? .closeBrace) do
    note (← place)
    if value?.isNone then
      step
      step
  return value?.getD .nothing

def enumeration (self : Grammar) : Read Tree := do
  discard anyWord
  expect .openBrace
  return .group (← manyUntil .closeBrace (enumMember self))

/-- An interface after its keyword. A second `extends` is a fault, and what follows it is passed
over. -/
def interface (self : Grammar) : Read Tree := do
  let start ← place
  noteIf (isTypeWord (← anyWord)) start
  let types ← typeParameters? self .names
  let bases ← if ← eatWord "extends" then heritageList self else pure []
  if ← atWord "extends" then
    note (← place)
    discard <| many do
      if (← at? .openBrace) || (← token) == .endOfText then return none
      step
      return some ()
  return .group ([types] ++ bases ++ [← typeMembers self])

def typeAlias (self : Grammar) : Read Tree := do
  discard anyWord
  let types ← typeParameters? self .names
  expect .assign
  let type ← wholeType self
  expectEnd
  return .group [types, type]

def namespaceBody (self : Grammar) : Read Tree := braced (self .item)

def namespaceDeclaration (self : Grammar) : Read Tree := do
  discard anyWord
  discard <| many do
    if ← eat .dot then return some (← anyWord)
    return none
  namespaceBody self

/-- What describes a module from elsewhere, after its name. The items may be missing. -/
def moduleDescription (self : Grammar) : Read Tree := do
  if ← at? .openBrace then return ← namespaceBody self
  expectEnd
  return .nothing

/-- The declaration that the word at the current token introduces, if it is a word that does.
Whatever follows the word must go on with the declaration. `marks` are the decorators before it. -/
def introduced? (self : Grammar) (marks : List Tree) : Read (Option Tree) := do
  match ← token with
  | .word "abstract" _ => step; some <$> self (.class .declaration true true marks)
  | .word "enum" _ => step; some <$> enumeration self
  | .word "interface" _ => step; some <$> interface self
  | .word "namespace" _ => step; some <$> namespaceDeclaration self
  | .word "type" _ => step; some <$> typeAlias self
  | .word "module" _ =>
      if ← onNewLine then return none
      step
      match ← token with
      | .text _ => step; some <$> moduleDescription self
      | _ => some <$> namespaceDeclaration self
  | _ => return none

/-- The declaration that a word introduces which has been read as an expression, if what follows
goes on with one. -/
def goesOn? (self : Grammar) (text : String) (marks : List Tree) : Read (Option Tree) := do
  let names := (← token).isReference
  let here := !(← onNewLine)
  match text with
  | "abstract" =>
      if here && (← atWord "class") then some <$> self (.class .declaration true true marks)
      else return none
  | "enum" => if names then some <$> enumeration self else return none
  | "interface" => if names then some <$> interface self else return none
  | "namespace" => if names then some <$> namespaceDeclaration self else return none
  | "type" => if names && here then some <$> typeAlias self else return none
  | "global" => if ← at? .openBrace then some <$> namespaceBody self else return none
  | "module" =>
      unless here do return none
      match ← token with
      | .text _ => step; some <$> moduleDescription self
      | .unreadable _ | .endOfText => fail
      | _ => if names then some <$> namespaceDeclaration self else return none
  | _ => return none

/-! ### Functions -/

/-- The declaration of a function, from its keyword on. Only an exported default may lack its
name. -/
def functionDeclaration (self : Grammar) (async named : Bool) (marks : List Tree) : Read Tree := do
  expectWord "function"
  let generator ← eat .star
  if named || (← token).isReference || (← atWord "this") then discard bindingIdentifier
  function self async generator marks

def beginsAsyncFunction : Read Bool := do
  let next ← following
  return (← atWord "async") && next.token == .word "function" false && !next.lineEnd

def beginsConstEnum : Read Bool := do
  return (← atWord "const") && (← following).token == .word "enum" false

def constantEnumeration (self : Grammar) : Read Tree := do
  expectWord "const"
  expectWord "enum"
  enumeration self

/-- A declaration of code from elsewhere, after the word `declare`, which stands at `start`; `none`
if what follows is no declaration. Inside another one the word is a fault. -/
def ambientDeclaration? (self : Grammar) (start : Place) (marks : List Tree) :
    Read (Option Tree) := do
  noteIf (← read).ambient start
  inContext (fun context => { context with ambient := true }) do
    match ← token with
    | .word "function" false => some <$> functionDeclaration self false true marks
    | .word "class" false => some <$> self (.class .declaration true false marks)
    | .word "var" false | .word "let" false => some <$> variableList self
    | .word "const" false =>
        some <$> if ← beginsConstEnum then constantEnumeration self else variableList self
    | .word "global" false => step; some <$> moduleDescription self
    | _ => introduced? self marks

/-! ### Jumps -/

def jump (loops : Bool) : Read Tree := do
  let start ← place
  step
  let context ← read
  if ← eatEnd then noteIf (!(if loops then context.continuable else context.breakable)) start
  else
    let label ← identifier
    expectEnd
    noteIf (!context.labels.contains label ||
      !(if loops then context.continuable else context.breakable)) start
  return .nothing

def returnStatement (self : Grammar) : Read Tree := do
  let start ← place
  step
  let value ← if ← atEnd then pure .nothing else allowingIn (self .expression)
  expectEnd
  noteIf (!(← read).inFunction) start
  return value

/-- `throw` with its value, which begins on the same line. -/
def throwStatement (self : Grammar) : Read Tree := do
  step
  if ← onNewLine then fail
  let value ← allowingIn (self .expression)
  expectEnd
  return value

/-! ### Choices -/

def ifStatement (self : Grammar) : Read Tree := do
  step
  let test ← condition self
  let yes ← self (.statement false)
  let no ← if ← eatWord "else" then self (.statement false) else pure .nothing
  return .group [test, yes, no]

def atCase : Read Bool := do return (← atWord "case") || (← atWord "default")

/-- The cases of a `switch`. At most one of them is the default; `hasDefault` tells whether it was
read. -/
def switchCases (self : Grammar) : Nat → Bool → Read (List Tree)
  | 0, _ => fail
  | limit + 1, hasDefault => do
      unless ← atCase do return []
      let isDefault ← atWord "default"
      step
      if isDefault && hasDefault then fail
      let test ← if isDefault then pure .nothing else allowingIn (self .expression)
      expect .colon
      let statements ← many do
        if (← atCase) || (← at? .closeBrace) then return none
        return some (← self (.statement true))
      return .group (test :: statements) :: (← switchCases self limit (hasDefault || isDefault))

def switchStatement (self : Grammar) : Read Tree := do
  step
  let value ← condition self
  expect .openBrace
  let cases ← inContext (fun context => { context with breakable := true }) do
    switchCases self (← read).limit false
  expect .closeBrace
  return .group (value :: cases)

def catchClause (self : Grammar) : Read Tree := do
  expectWord "catch"
  let parameter ← (do
    unless ← eat .openParen do return .nothing
    let target ← self .binding
    let type ← typeAnnotation self
    expect .closeParen
    return .group [target, type])
  return .group [parameter, ← self .block]

def finallyClause (self : Grammar) : Read Tree := do
  expectWord "finally"
  self .block

/-- `try` with its clauses, of which there is at least one. -/
def tryStatement (self : Grammar) : Read Tree := do
  step
  let body ← self .block
  let clausePlace ← place
  let caught ← if ← atWord "catch" then some <$> catchClause self else pure none
  let ending ← if ← atWord "finally" then some <$> finallyClause self else pure none
  noteIf (caught.isNone && ending.isNone) clausePlace
  return .group (body :: (caught.toList ++ ending.toList))

/-- Clauses without their `try`. They are passed over, be they right or wrong, but they are a
fault. -/
def strayClauses (self : Grammar) : Read Tree := do
  note (← place)
  if ← atWord "catch" then recover (discard (catchClause self)) fun _ => return
  if ← atWord "finally" then recover (discard (finallyClause self)) fun _ => return
  return .nothing

/-! ### Loops -/

inductive LoopForm where
  | count
  | keys
  | values
  deriving DecidableEq

def eachRest (self : Grammar) (target : Tree) : Read (Tree × LoopForm) := do
  let values ← atWord "of"
  step
  let collection ← allowingIn (if values then self .assignment else self .expression)
  expect .closeParen
  return (.group [target, collection, ← loopBody self], if values then .values else .keys)

/-- The rest of a counting loop after the first semicolon of its head. The second one may be missing
after a test. -/
def countRest (self : Grammar) (start : Tree) : Read (Tree × LoopForm) := do
  let test ← if ← eat .semicolon then pure .nothing else (do
    let test ← allowingIn (self .expression)
    discard (eat .semicolon)
    return test)
  let advance ← if ← at? .closeParen then pure .nothing else allowingIn (self .expression)
  expect .closeParen
  return (.group [start, test, advance, ← loopBody self], .count)

/-- Whether a variable may be declared in the head of a loop over values or keys: without type and
value. -/
def isLoopVariable : Tree → Bool
  | .declarator _ (.group []) none => true
  | _ => false

/-- Whether the `of` or `in` at the current token begins the second part of the head of a loop, and
is no name. -/
def beginsEach (self : Grammar) : Read Bool := do
  unless ← atOfOrIn do return false
  foresee do
    step
    discard (self .assignment)
    at? .closeParen

/-- The variables that are declared in the head of a loop, from their keyword on. In a loop over
values or keys it is a fault if there are none. -/
def loopVariables (self : Grammar) : Read (List (Place × Tree)) := do
  let kind := variableKind (← token)
  let gap := (← get).current.rest
  step
  if ← beginsEach self then
    note gap
    return []
  declaratorList self kind true (← read).limit (some gap)

/-- A loop whose head begins with a declaration, from its keyword on. A loop over values or keys has
one variable. -/
def declaringLoop (self : Grammar) : Read (Tree × LoopForm) := do
  let declared ← loopVariables self
  let target := Tree.variableList (declared.map (·.2))
  if ← atOfOrIn then
    match declared with
    | [(start, only)] => noteIf (!isLoopVariable only) start
    | _ => noteAll (declared.tail.map (·.1))
    eachRest self target
  else
    expect .semicolon
    countRest self target

def isUsing : Tree → Bool
  | .name text | .operation .await [.name text] => text == "using"
  | _ => false

/-- A loop whose head begins with an expression. It may turn out to be the word that declares a
resource. Keys are not taken apart by a pattern, and are no resources. -/
def expressionLoop (self : Grammar) : Read (Tree × LoopForm) := do
  let start ← place
  let first ← inContext (fun context => { context with allowsIn := false }) (self .expression)
  let next ← following
  if isUsing first && !(← atWord "of") &&
      (next.token == .word "of" false || next.token == .word "in" false) then
    discard bindingIdentifier
    noteIf (← atWord "in") start
    return ← eachRest self .nothing
  if ← atOfOrIn then
    if first.isLiteralPattern then
      checkPattern .target start first
      noteIf (← atWord "in") start
    else noteIf (!first.isSimpleTarget) start
    return ← eachRest self first
  expect .semicolon
  countRest self first

/-- `for` with its head and body. Only values are awaited. -/
def forStatement (self : Grammar) : Read Tree := do
  step
  let awaitPlace ← place
  let awaits ← eatWord "await"
  expect .openParen
  let (tree, form) ← inContext (fun context => { context with inLoopHead := !awaits }) do
    if ← beginsVariables then declaringLoop self
    else if ← eat .semicolon then countRest self .nothing
    else expressionLoop self
  if awaits && form != .values then failAt awaitPlace
  return tree

def whileStatement (self : Grammar) : Read Tree := do
  step
  let test ← condition self
  return .group [test, ← loopBody self]

/-- `do` with its body. Its condition is visited first. -/
def doStatement (self : Grammar) : Read Tree := do
  step
  let body ← loopBody self
  expectWord "while"
  let test ← condition self
  discard eatEnd
  return .group [test, body]

/-! ### Statements -/

/-- A statement behind a label that begins at `start`. A label that stands inside a statement of the
same label is a fault, and so is one of a generator. -/
def labelled (self : Grammar) (start : Place) (text : String) : Read Tree := do
  let repeated := (← read).labels.contains text
  let inside (context : Context) : Context :=
    { context with breakable := true, labels := text :: context.labels }
  let tree ← inContext inside do
    unless ← atWord "function" do return ← self (.statement false)
    let functionPlace ← place
    let generator := (← following).token == .mark .star
    let tree ← functionDeclaration self false true []
    noteIf generator functionPlace
    return tree
  noteIf repeated start
  return tree

/-- A statement that has begun with a name at `start`: one behind a label, a declaration that the
name introduces, or an expression. -/
def namedStatement (self : Grammar) (start : Place) (text : String) (marks : List Tree) :
    Read Tree := do
  if ← eat .colon then return ← labelled self start text
  if text == "interface" && (← onNewLine) then
    note start
    discard eatEnd
    return .nothing
  let found? ←
    if text == "declare" then ambientDeclaration? self start marks else goesOn? self text marks
  if let some found := found? then return found
  noteIf (text == "enum" || text == "interface") start
  expressionEnd self start (.name text)

def expressionStatement (self : Grammar) (marks : List Tree) : Read Tree := do
  let start ← place
  match ← allowingIn (self .expression) with
  | .name text => namedStatement self start text marks
  | tree => expressionEnd self start tree

/-- A statement that begins with `import`: an expression, after which the next statement may follow
at once. -/
def importStatement (self : Grammar) : Read Tree := do
  match (← following).token with
  | .mark .openParen | .mark .dot =>
      let tree ← self .expression
      discard eatEnd
      return tree
  | _ => fail

def withStatement (self : Grammar) : Read Tree := do
  note (← place)
  step
  let value ← condition self
  return .group [value, ← self (.statement false)]

/-- A statement that does not begin with a keyword of its own, or with one that may be a name. -/
def otherStatement (self : Grammar) (inList : Bool) (marks : List Tree) : Read Tree := do
  let next ← following
  let introduces := next.token.isWord && !next.lineEnd
  match ← token with
  | .word "await" false =>
      if inList && next.token == .word "using" false then return ← awaitedResources self
  | .word "let" false => if inList && followsLet next.token then return ← variableList self
  | .word "using" false =>
      if inList && (← beginsResources) then
        let start ← place
        return ← resources self start
  | .word "interface" false | .word "type" false | .word "enum" false =>
      if introduces then
        if let some tree ← introduced? self marks then return tree
  | .word "async" false =>
      if ← beginsAsyncFunction then
        step
        return ← functionDeclaration self true true marks
  | _ => pure ()
  expressionStatement self marks

/-- A statement after the decorators before it. Only in a list of statements may it be a
declaration. -/
def statementAfter (self : Grammar) (inList : Bool) (marks : List Tree) : Read Tree :=
  inContext (fun context => { context with beforeColon := false }) do
    match ← token with
    | .mark .openBrace => self .block
    | .mark .semicolon => step; return .nothing
    | .word "break" false => jump false
    | .word "continue" false => jump true
    | .word "debugger" false => step; expectEnd; return .nothing
    | .word "do" false => doStatement self
    | .word "for" false => forStatement self
    | .word "function" false =>
        noteIf (!inList) (← place)
        functionDeclaration self false true marks
    | .word "class" false =>
        noteIf (!inList) (← place)
        self (.class .declaration true false marks)
    | .word "if" false => ifStatement self
    | .word "return" false => returnStatement self
    | .word "switch" false => switchStatement self
    | .word "throw" false => throwStatement self
    | .word "try" false => tryStatement self
    | .word "catch" false | .word "finally" false => strayClauses self
    | .word "with" false => withStatement self
    | .word "while" false => whileStatement self
    | .word "var" false => variableList self
    | .word "const" false =>
        if ← beginsConstEnum then constantEnumeration self
        else if inList then variableList self
        else fail
    | _ => otherStatement self inList marks

def statement (self : Grammar) (inList : Bool) : Read Tree := do
  let marks ← Grammar.decorators self
  if ← atWord "import" then importStatement self
  else if ← atWord "export" then fail
  else statementAfter self inList marks

end RouteManifest.Script.Grammar
