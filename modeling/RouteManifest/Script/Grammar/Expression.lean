import RouteManifest.Script.Grammar.Function

/-!
Expressions. What is missing or wrong in an expression is often only noted, and the reading goes on:
an operand that is missing before an operator, the operand of a sign, or a literal that is no
pattern where one is needed.
-/

namespace RouteManifest.Script.Grammar

open Read

/-! ### Lists of expressions -/

def locatedAssignment (self : Grammar) : Read Tree := do
  let start ← place
  return .located start (← self .assignment)

def spreadable (self : Grammar) : Read Tree := do
  if ← eat .ellipsis then return .spread (← locatedAssignment self)
  self .assignment

def arguments (self : Grammar) : Read (List Tree) := do
  expect .openParen
  enclosed (commaList .closeParen (spreadable self))

def arrayLiteral (self : Grammar) : Read Tree := do
  expect .openBracket
  let (elements, comma) ← commaListAndEnd .closeBracket do
    if ← at? .comma then return .hole
    let start ← place
    return .located start (← allowingIn (spreadable self))
  return .array elements comma

/-! ### Object literals -/

/-- A method of an object literal, from its key on. -/
def objectMethod (self : Grammar) (async generator : Bool) : Read Tree := do
  let name ← key self
  return .method [name, ← function self async generator []]

/-- An accessor of an object literal, from its key on. Of one that writes only what its parameters
declare is visited, and its body. -/
def objectAccessor (self : Grammar) (reads : Bool) : Read Tree := do
  let start ← place
  let name ← key self
  let parts ← functionParts self false false (checkAccessor reads start)
  let described := if reads then [parts.result] else (parts.parameters.take 2).map (·.pattern)
  return .method (name :: described ++ parts.body.toList)

/-- Whether a member of an object literal may go on with a token after its key. -/
def followsKey (name : Tree) : Token → Bool
  | .word _ _ | .text _ | .number => true
  | .mark .openParen | .mark .openBracket | .mark .colon | .mark .comma | .mark .question
  | .mark .assign | .mark .star | .mark .less => true
  | .mark .closeBrace => name.isName
  | _ => false

/-- A member of an object literal whose key is a word and has neither a value nor parameters behind
it: a variable of that name, a method or accessor that the word introduces, or a part of a pattern.
`modified` is the place of a word before it, which no such method or accessor may have. -/
def wordMember (self : Grammar) (text : String) (modified : Option Place) : Read Tree := do
  let questionPlace ← place
  noteIf (← eat .question) questionPlace
  if let some value ← allowingIn (initializer? self) then return .defaulted (.name text) value
  if (← at? .comma) || (← at? .closeBrace) then return .shorthand text
  unless text == "get" || text == "set" || text == "async" do fail
  noteAll modified.toList
  if text == "async" then
    let generator ← eat .star
    objectMethod self true generator
  else objectAccessor self (text == "get")

def keyedMember (self : Grammar) : Read Tree := do
  if ← eat .star then return ← objectMethod self false true
  let wordPlace ← place
  let modified ← propertyWord
  let name ← key self
  unless followsKey name (← token) do
    note (← place)
    return .property name .nothing
  if ← eat .colon then return .property name (← allowingIn (locatedAssignment self))
  if opensSignature (← token) then return .method [name, ← function self false false []]
  match name with
  | .name text => wordMember self text (if modified then some wordPlace else none)
  | _ => fail

def objectLiteral (self : Grammar) : Read Tree := do
  expect .openBrace
  let (members, comma) ← besideColon <| commaListAndEnd .closeBrace do
    let start ← place
    if ← eat .ellipsis then return .located start (.spread (← locatedAssignment self))
    return .located start (← keyedMember self)
  return .object members comma

/-! ### Regular expressions -/

/-- The flags that follow the body of a regular expression, and what follows them. They are read
like a word that does not begin with an escape. -/
def regexFlags? (text : Place) : Option (List Char × Place) :=
  if (text.head?.map Text.Identifier.isStart).getD false then
    (wordFrom true false text).map fun (flags, _, rest) => (flags, rest)
  else some ([], text)

def areKnownFlags (flags : List Char) : Bool :=
  flags.all ("dgimsuvy".toList.contains ·) && flags.eraseDups.length == flags.length

/-- A regular expression, whose first slash begins the current token. -/
def regexLiteral : Read Tree := do
  let start ← place
  let rest := (← get).current.rest
  match regexBody? false (if ← at? .slashUpdate then '=' :: rest else rest) with
  | none => failUnclosed
  | some (body, rest) =>
      match regexFlags? rest with
      | none => failUnclosed
      | some (flags, rest) =>
          unless areKnownFlags flags do note start
          stepTo rest
          return .regex (String.ofList body) (String.ofList flags)

/-! ### Operators -/

/-- The operator at the current token if it is written in signs, and what follows it. -/
def markedOperator? : Read (Option (Level × Place)) := do
  let lexeme := (← get).current
  let found (level : Level) : Option (Level × Place) := some (level, lexeme.rest)
  match lexeme.token with
  | .mark .less => return found .relation
  | .mark .greater =>
      match joinGreater lexeme.rest with
      | (.operator level, rest) => return some (level, rest)
      | (.greater, rest) => return some (.relation, rest)
      | _ => return none
  | .mark .plus | .mark .minus => return found .sum
  | .mark .star | .mark .slash => return found .product
  | .mark .bar => return found .bitOr
  | .mark .ampersand => return found .bitAnd
  | .mark (.operator level) => return found level
  | _ => return none

def operator? : Read (Option (Level × Place)) := do
  let rest := (← get).current.rest
  match ← token with
  | .word "instanceof" false => return some (.relation, rest)
  | .word "in" false => return if (← read).allowsIn then some (.relation, rest) else none
  | _ => markedOperator?

/-- An operand with the signs before it. One that cannot be read is only a fault if an operator
stands where the reading stopped. -/
def leadingOperand (self : Grammar) : Read Tree :=
  recover (self .unary) fun blamed => do
    if let .unreadable _ ← token then fail
    unless (← operator?).isSome do failAt blamed
    note (← place)
    return .nothing

def operationOf : Level → Operation
  | .coalesce => .coalesce
  | .logicalOr | .logicalAnd => .logical
  | _ => .binary

/-- Notes operands that begin at `start` and `rightStart` and need parentheses. An operand of `??`
is no operation of `||` or `&&`, and the first operand of these is no operation of `??`. -/
def checkMixed (level : Level) (start rightStart : Place) (left right : Tree) : Read Unit := do
  let isLogical : Tree → Bool
    | .operation .logical _ => true
    | _ => false
  match level, left with
  | .coalesce, _ =>
      noteIf (isLogical left) start
      noteIf (isLogical right) rightStart
  | .logicalOr, .operation .coalesce _ | .logicalAnd, .operation .coalesce _ => note start
  | _, _ => return

def isSigned : Tree → Bool
  | .operation .unary _ | .operation .await _ => true
  | _ => false

/-- Reads `as` or `satisfies` and a type after an operand, on the same line. The former stands where
a comparison may. -/
def typedOperand? (self : Grammar) (rank : Nat) (operand : Tree) : Read (Option Tree) := do
  if rank < Level.relation.rank then
    if ← eatWordHere "as" then
      if ← eatWord "const" then return some (.marked .constant operand .nothing)
      return some (.marked .cast operand (← wholeType self))
  if ← eatWordHere "satisfies" then return some (.marked .satisfied operand (← wholeType self))
  return none

/-- The operators after an operand that bind more tightly than `rank`, and their operands. The first
operand begins at `start`. -/
def operations (self : Grammar) : Nat → Nat → Place → Tree → Read Tree
  | 0, _, _, _ => fail
  | limit + 1, rank, start, left => do
      if let some typed ← typedOperand? self rank left then operations self limit rank start typed
      else
        match ← operator? with
        | none => return left
        | some (level, rest) =>
            if level.rank ≤ rank then return left
            stepTo rest
            if level == .power && isSigned left then fail
            let rightStart ← place
            let operand ← self .unary
            let right ← operations self limit
              (if level == .power then level.rank - 1 else level.rank) rightStart operand
            checkMixed level start rightStart left right
            operations self limit rank start (.operation (operationOf level) [left, right])

def assigns? : Read (Option (Bool × Place)) := do
  let lexeme := (← get).current
  match lexeme.token with
  | .mark .assign => return some (true, lexeme.rest)
  | .mark .update | .mark .slashUpdate => return some (false, lexeme.rest)
  | .mark .greater =>
      match joinGreater lexeme.rest with
      | (.update, rest) => return some (false, rest)
      | _ => return none
  | _ => return none

/-- Notes what is wrong with an expression that begins at `start` and is read as a pattern. -/
def checkPattern (use : PatternUse) (start : Place) (tree : Tree) : Read Unit :=
  (tree.patternFaults use start).forM fun fault =>
    if fault.stops then failAt fault.place else note fault.place

/-- Reads on after an expression that may be assigned to. `start` is where it begins. -/
def assignmentRest (self : Grammar) (start : Place) (target : Tree) : Read Tree := do
  match ← assigns? with
  | none => return target
  | some (plain, rest) =>
      if plain && target.isLiteralPattern then checkPattern .target start target
      else
        noteIf (!target.isSimpleTarget) start
        unless target.looksAssignable do failAt start
      stepTo rest
      let value ← self .assignment
      return if plain then .assign target value else .operation .update [target, value]

def branches (self : Grammar) (test : Tree) : Read Tree := do
  inContext (fun context => { context with inBranch := true }) do
    let yes ← inContext (fun context => { context with allowsIn := true, beforeColon := true })
      (self .assignment)
    expect .colon
    let no ← besideColon (self .assignment)
    return .operation .conditional [test, yes, no]

/-! ### Arrow functions and parentheses -/

def allowArrow : Read Unit :=
  modify fun state => { state with arrowStart := some state.index }

def mayBeArrow : Read Bool := do
  let state ← get
  return state.arrowStart == some state.index

/-- An item between parentheses that may turn out to be parameters. -/
structure CoverItem where
  start : Place
  tree : Tree
  isSpread : Bool := false
  isParameter : Bool := false

def CoverItem.toTree (item : CoverItem) : Tree :=
  if item.isSpread then .spread item.tree else item.tree

def marksOptional : Read Bool := do
  unless ← at? .question do return false
  match (← following).token with
  | .mark .comma | .mark .colon | .mark .closeParen | .mark .assign => return true
  | _ => return false

/-- The expression of an item. A word is read without its conditional part, because a question mark
after it may make it an optional parameter. -/
def coverExpression (self : Grammar) (start : Place) (isSpread beginsWithWord : Bool) :
    Read Tree := do
  unless beginsWithWord do return ← self .assignment
  let operandStart ← place
  match ← leadingOperand self with
  | .arrow parts result => return .arrow parts result
  | operand =>
      let tree ← operations self (← read).limit 0 operandStart operand
      if isSpread then return tree else assignmentRest self start tree

/-- The question mark after an item, which makes it optional or a conditional expression. Tells
whether it is optional. -/
def coverQuestion (self : Grammar) (start : Place) (isSpread : Bool) (tree : Tree) :
    Read (Tree × Bool) := do
  unless ← at? .question do return (tree, false)
  if ← marksOptional then
    noteIf isSpread (← place)
    unless tree.isName do failAt start
    step
    return (tree, true)
  if isSpread then return (tree, false)
  step
  return (← branches self tree, false)

/-- What an item declares if it is a parameter: the expression read as a pattern, with a type and a
default value. -/
def coverParameter (self : Grammar) (start : Place) (isSpread : Bool) (tree : Tree) :
    Read Tree := do
  checkPattern .binding start tree
  let type ←
    if isSpread || tree.isName || tree.isLiteralPattern then typeAnnotation self else pure .nothing
  return .declarator tree type (← initializer? self)

def coverItem (self : Grammar) : Read CoverItem := do
  allowArrow
  let start ← place
  let modified ← propertyWord
  let patternStart ← place
  let next ← following
  let isSpread ← at? .ellipsis
  let first ← if isSpread then pure next.token else token
  if isSpread then step
  let valueStart ← place
  let tree ← coverExpression self start isSpread first.isReference
  let (tree, optional) ← coverQuestion self patternStart isSpread tree
  if optional || (← at? .colon) then
    let target ← coverParameter self valueStart isSpread tree
    noteIf modified start
    return { start := patternStart, tree := target, isSpread, isParameter := true }
  noteIf modified start
  return {
    start := patternStart
    tree := if isSpread then .located valueStart tree else tree
    isSpread }

/-- Notes what is wrong with items as the parameters of an arrow function. A rest parameter is the
last, without a default value and without a comma behind it. -/
def checkCoverItems (comma : Option Place) : List CoverItem → Read Unit
  | [] => return
  | [item] => do
      if item.isSpread then
        noteIf item.tree.bare.isAssignment item.start
        noteAll comma.toList
      unless item.isParameter do checkPattern .binding item.start item.tree
  | item :: rest => do
      if item.isSpread then note item.start
      else unless item.isParameter do checkPattern .binding item.start item.tree
      checkCoverItems comma rest

def checkArrowParameters (items : List CoverItem) (comma : Option Place) : Read Unit := do
  checkCoverItems comma items
  let declared := items.dropLast.filter (!·.isSpread) ++ items.getLast?.toList
  noteAll (declared.flatMap fun item => item.tree.fixedNames item.start)

def CoverItem.isName (item : CoverItem) : Bool :=
  match item.tree.bare with
  | .name _ => true
  | .declarator (.name _) _ none => !item.isSpread
  | _ => false

def areSimple (items : List CoverItem) : Bool := items.all fun item => item.isName && !item.isSpread

/-- An arrow after an item at which no arrow function may begin. If the first item is a name, the
items so far are read as the parameters of an arrow function, which is one more item; else the arrow
is passed over. The items are given from the last to the first. -/
def lateArrow (self : Grammar) (items : List CoverItem) : Read (List CoverItem) := do
  unless ← eat .arrow do return items
  unless (items.getLast?.map (·.isName)).getD false do return items
  checkArrowParameters items.reverse none
  let (body, _) ← arrowBody self false (areSimple items)
  let start := (items.head?.map (·.start)).getD []
  return { start, tree := .arrow (items.reverse.map (·.toTree) ++ [body]) .nothing } :: items

/-- Items up to the closing parenthesis, which is stepped over, and the comma behind the last.
`before` holds the items read so far, from the last to the first. -/
def coverItems (self : Grammar) : Nat → List CoverItem → Read (List CoverItem × Option Place)
  | 0, _ => fail
  | limit + 1, before => do
      if ← eat .closeParen then return (before.reverse, none)
      let items ← lateArrow self ((← coverItem self) :: before)
      if ← eat .closeParen then return (items.reverse, none)
      let comma ← place
      expect .comma
      if ← eat .closeParen then return (items.reverse, some comma)
      coverItems self limit items

/-- An arrow function after its arrow. An operator after a body in braces is only a fault. `start`
is where the function begins. -/
def arrowFunction (self : Grammar) (async : Bool) (start : Place) (items : List CoverItem)
    (result : Tree) :
    Read Tree := do
  let (body, braced) ← arrowBody self async (areSimple items)
  let tree := .arrow (items.map (·.toTree) ++ [body]) result
  unless braced && (← markedOperator?).isSome do return tree
  note (← place)
  operations self (← read).limit 0 start tree

/-- The type of the result of an arrow function, if a colon and a type stand before an arrow.
Between the `?` and the `:` of a conditional expression the colon is none of it. -/
def arrowResult? (self : Grammar) : Read (Option Tree) := do
  if (← read).beforeColon || !(← at? .colon) then return none
  attempt do
    let result ← resultAnnotation self
    unless ← at? .arrow do fail
    return result

/-- An arrow function after its parameters in a branch of a conditional expression, if it has the
type of a result. Between the `?` and the `:` the colon at the current token belongs to it only if
another one follows. -/
def arrowInBranch? (self : Grammar) (async : Bool) (items : List CoverItem) :
    Read (Option Tree) := do
  unless (← read).inBranch && (← at? .colon) do return none
  attempt do
    let result ← resultAnnotation self
    expect .arrow
    checkArrowParameters items none
    let (body, _) ← arrowBody self async (areSimple items)
    if (← read).beforeColon then
      unless ← at? .colon do fail
    return .arrow (items.map (·.toTree) ++ [body]) result

/-- Items between parentheses that are no parameters. After `async` they are the arguments of a
call. -/
def plainItems (async : Bool) (start : Place) (items : List CoverItem) : Read Tree := do
  noteAll (items.flatMap (·.tree.bare.defaultedMembers))
  if async then return .call (.name "async") (items.map (·.toTree))
  if items.isEmpty then failAt start
  if let some item := items.find? (·.isSpread) then
    match item.tree with
    | .located valueStart _ => failAt valueStart
    | _ => failAt item.start
  match items with
  | [item] => return .parens item.tree
  | _ => return .parens (.group (items.map (·.tree)))

/-- What begins with a parenthesis: an arrow function, or expressions between parentheses. `async`
is the place of an `async` before it. `arrow` tells whether an arrow function may stand here. -/
def parenthesized (self : Grammar) (async : Option Place) (arrow : Bool) : Read Tree := do
  let openPlace ← place
  let start := async.getD openPlace
  expect .openParen
  let (items, comma) ← enclosed (coverItems self (← read).limit [])
  if let some tree ← arrowInBranch? self async.isSome items then return tree
  let result? ← arrowResult? self
  unless items.any (·.isParameter) || result?.isSome || (← at? .arrow) do
    return ← plainItems async.isSome start items
  if (← onNewLine) || !arrow then failAt start
  expect .arrow
  checkArrowParameters items comma
  arrowFunction self async.isSome start items (result?.getD .nothing)

def genericAsyncArrow (self : Grammar) : Read Tree := do
  expectWord "async"
  let types ← typeParameters? self .functions
  expect .openParen
  let values ← parameters self false
  expect .closeParen
  let result ← resultAnnotation self
  expect .arrow
  let (body, _) ← arrowBody self true (values.all (·.isSimple))
  return .arrow (values.map (·.pattern) ++ [body, types]) result

/-- What follows the word `async`, which stands at `start`, if it is a name: the parameter of an
arrow function, a type after `as`, or the `of` of a loop. -/
def asyncBefore (self : Grammar) (start : Place) : Read Tree := do
  if (← read).inLoopHead && (← atWord "of") && (← following).token != .mark .arrow then
    note start
    return .name "async"
  let parameter ← bindingIdentifier
  if parameter == "as" && !(← at? .arrow)
    then return .marked .cast (.name "async") (← wholeType self)
  expect .arrow
  let (body, _) ← arrowBody self true true
  return .arrow [.name parameter, body] .nothing

def identifierOrArrow (self : Grammar) : Read Tree := do
  let arrow ← mayBeArrow
  let start ← place
  unless (← token).isReference || (← atWord "let") do fail
  let text ← identifier
  if arrow && !(← onNewLine) then
    if text == "async" && (← token).isReference then return ← asyncBefore self start
    if ← eat .arrow then
      noteIf (isFixed text) start
      let (body, _) ← arrowBody self false true
      return .arrow [.name text, body] .nothing
  return .name text

/-! ### Operands -/

def functionExpression (self : Grammar) (async : Bool) : Read Tree := do
  expectWord "function"
  let generator ← eat .star
  if (← token).isReference || (← atWord "this") then discard bindingIdentifier
  let parts ← besideColon (functionParts self async generator fun _ => return)
  if parts.body.isNone then fail
  return parts.tree []

def asyncOperand (self : Grammar) : Read Tree := do
  let start ← place
  let arrow ← mayBeArrow
  let next ← following
  if next.token == .word "function" false && !next.lineEnd then
    step
    return ← functionExpression self true
  if arrow && next.token == .mark .less then
    if let some tree ← attempt (genericAsyncArrow self) then return tree
  if arrow && next.token == .mark .openParen && !next.lineEnd then
    step
    return ← parenthesized self (some start) true
  identifierOrArrow self

def primary (self : Grammar) : Read Tree := do
  match ← token with
  | .text value => step; return .text value
  | .number => step; return .nothing
  | .mark .openParen => parenthesized self none (← mayBeArrow)
  | .mark .openBracket => arrayLiteral self
  | .mark .openBrace => objectLiteral self
  | .mark .slash | .mark .slashUpdate => regexLiteral
  | .mark .backquote => template false (enclosed (self .expression))
  | .mark .at => do
      let marks ← decorators self
      unless ← atWord "class" do fail
      self (.class .expression false false marks)
  | .mark .hash => step; discard anyWord; return .nothing
  | .word "function" false => functionExpression self false
  | .word "class" false => self (.class .expression false false [])
  | .word "async" false => asyncOperand self
  | .word "this" false | .word "null" false | .word "true" false | .word "false" false =>
      step; return .nothing
  | .word _ _ => identifierOrArrow self
  | _ => fail

def beginsExpression : Token → Bool
  | .word text escaped =>
      escaped || !reservedWords.contains text ||
        ["class", "delete", "false", "function", "import", "new", "null", "super", "this", "true",
          "typeof", "void"].contains text
  | .text _ | .number => true
  | .mark mark =>
      match mark with
      | .openParen | .openBracket | .openBrace | .backquote | .not | .tilde | .step | .plus
      | .minus | .hash => true
      | _ => false
  | _ => false

/-- Whether type arguments that belong to no call may end before the current token: at the end of a
line, before an operator, or where no operand begins. A brace after them is taken for a block. -/
def endsTypeArguments : Read Bool := do
  let next ← token
  let joined? ← markedOperator?
  match next with
  | .mark .openParen | .mark .backquote | .mark .less | .mark .plus | .mark .minus => return false
  | .mark .greater => if (joinGreater (← get).current.rest).1 == .greater then return false
  | _ => pure ()
  return (← onNewLine) || joined?.isSome || next == .mark .openBrace || !beginsExpression next

/-- An operand with the type arguments after it that belong to no call, if there are some. -/
def instantiated (self : Grammar) (operand : Tree) : Read Tree := do
  unless ← at? .less do return operand
  let types? ← attempt do
    let types ← typeArguments self
    unless ← endsTypeArguments do fail
    return types
  match types? with
  | some types => return .marked .instantiated operand types
  | none => return operand

def callTypes? (self : Grammar) : Read (Option Tree) := do
  unless ← atAngle do return none
  attempt do
    let types ← typeArguments self
    unless ← at? .openParen do fail
    return types

/-- What follows type arguments after an operand: a call, a template, or what may follow an assigned
or typed operand. -/
def typedSuffix? (self : Grammar) (calls : Bool) (operand : Tree) : Read (Option Tree) :=
  attempt do
    let types ← typeArguments self
    match ← token with
    | .mark .openParen =>
        unless calls do fail
        return .call operand ((← arguments self) ++ [types])
    | .mark .backquote =>
        return .group [operand, types, ← template true (enclosed (self .expression))]
    | .mark .assign | .word "as" false | .word "satisfies" false =>
        return .marked .instantiated operand types
    | _ => fail

/-- A member after its dot, with the type arguments after it that belong to no call. -/
def namedMember (self : Grammar) (link : Link) (object : Tree) : Read Tree := do
  if ← at? .hash then discard privateName else discard anyWord
  instantiated self (.member link object .nothing)

/-- A member in brackets, after the opening one, with the type arguments after it that belong to no
call. -/
def indexedMember (self : Grammar) (link : Link) (object : Tree) : Read Tree := do
  let name ← allowingIn (self .expression)
  expect .closeBracket
  instantiated self (.member link object name)

def optionalRest (self : Grammar) (object : Tree) : Read Tree := do
  match ← token with
  | .mark .openParen => return .member .optional object (.group (← arguments self))
  | .mark .openBracket => step; indexedMember self .optional object
  | .mark .less => do
      let types ← typeArguments self
      return .member .optional object (.group ((← arguments self) ++ [types]))
  | _ => namedMember self .optional object

/-- A template after an operand that begins at `start` and is no part of a chain that holds a
`?.`. -/
def taggedTemplate (self : Grammar) (start : Place) (operand : Tree) : Read Tree := do
  let parts ← template true (enclosed (self .expression))
  noteIf operand.isOptionalChain start
  return .group [operand, parts]

/-- One more member, call or mark after an operand that begins at `start`. `calls` and `indexes`
tell whether a call and a member in brackets may follow. -/
def suffix? (self : Grammar) (start : Place) (calls indexes : Bool) (operand : Tree) :
    Read (Option Tree) := do
  let link : Link := if operand.continuesChain then .continued else .plain
  match ← token with
  | .mark .not =>
      if ← onNewLine then return none
      step
      return some (.marked .nonNull operand .nothing)
  | .mark .less => typedSuffix? self calls operand
  | .mark .optionalDot =>
      step
      return some (← optionalRest self operand)
  | .mark .openBracket =>
      unless indexes do return none
      step
      return some (← indexedMember self link operand)
  | .mark .dot =>
      step
      return some (← namedMember self link operand)
  | .mark .openParen =>
      unless calls do return none
      return some (.call operand (← arguments self))
  | .mark .backquote => return some (← taggedTemplate self start operand)
  | _ => return none

/-- An operand that begins at `start` with all members, calls and marks after it. -/
def suffixes (self : Grammar) (start : Place) (calls indexes : Bool) (operand : Tree) : Read Tree :=
  extendWhile (suffix? self start calls indexes) operand

/-- What begins with `import`: a call, possibly with a phase, or what is known about the module. A
call has one or two arguments. -/
def importOperand (self : Grammar) (calls : Bool) : Read Tree := do
  let start ← place
  expectWord "import"
  if ← eat .dot then
    match ← anyWord with
    | "meta" => return .nothing
    | "defer" | "source" => pure ()
    | _ => fail
  unless calls do fail
  let values ← arguments self
  noteIf (values.isEmpty || values.length > 2) start
  return .group values

def superOperand (self : Grammar) (calls : Bool) : Read Tree := do
  let start ← place
  expectWord "super"
  match ← token with
  | .mark .openParen => unless calls do fail
  | .mark .openBracket | .mark .dot => pure ()
  | _ => fail
  if (← at? .dot) && (← following).token == .mark .hash then
    step
    discard privateName
    fail
  return (← suffix? self start calls true .nothing).getD .nothing

def newTarget (start : Place) : Read Tree := do
  expect .dot
  expectWord "target"
  noteIf (!(← read).hasNewTarget) start
  return .nothing

/-- A construction after its `new`, which stands at `start`. Its arguments may be missing, and what
is constructed is no chain that holds a `?.`. -/
def construction (self : Grammar) (start : Place) : Read Tree := do
  let constructedPlace ← place
  match ← self .member with
  | .arrow parts result => return .arrow parts result
  | constructed =>
      if constructed.isOptionalChain then failAt constructedPlace
      let types := (← callTypes? self).getD .nothing
      unless ← at? .openParen do return .group [constructed, types]
      let values ← arguments self
      suffixes self start false true (.group (constructed :: values ++ [types]))

def member (self : Grammar) : Read Tree := do
  let start ← place
  if ← eatWord "new" then
    if ← at? .dot then return ← suffixes self start false true (← newTarget start)
    return ← construction self start
  if ← atWord "super" then return ← suffixes self start false true (← superOperand self false)
  if ← atWord "import" then return ← suffixes self start false true (← importOperand self false)
  match ← primary self with
  | .arrow parts result => return .arrow parts result
  | operand => suffixes self start false true (← instantiated self operand)

def operand (self : Grammar) : Read Tree := do
  let start ← place
  if ← atWord "super" then return ← suffixes self start true true (← superOperand self true)
  if ← atWord "import" then return ← suffixes self start true true (← importOperand self true)
  match ← member self with
  | .arrow parts result => return .arrow parts result
  | callee =>
      let types? ← callTypes? self
      unless ← at? .openParen do return callee
      let values ← arguments self
      suffixes self start true true (.call callee (values ++ types?.toList))

def decoratorCall (self : Grammar) (operand : Tree) : Read Tree := do
  if ← at? .less then
    let types ← typeArguments self
    return .call operand ((← arguments self) ++ [types])
  if ← at? .openParen then return .call operand (← arguments self) else return operand

/-- A decorator: an expression in parentheses, or a name with members, calls and marks after it, and
a call at the end. -/
def decorator (self : Grammar) : Read Tree := do
  let line := lineAt (← read).text (← place)
  expect .at
  let operand ←
    if ← eat .openParen then do
      let inner ← self .expression
      expect .closeParen
      pure inner
    else do
      let start ← place
      suffixes self start true false (.name (← identifier))
  return .decorator line (← decoratorCall self operand)

/-! ### Signs, conditions and assignments -/

def atSign : Read Bool := do
  match ← token with
  | .mark .plus | .mark .minus | .mark .tilde | .mark .not => return true
  | .word "delete" false | .word "void" false | .word "typeof" false => return true
  | _ => return false

/-- A sign and its operand. An operand that cannot be read is only a fault. -/
def signed (self : Grammar) : Read Tree := do
  step
  let value ← recover (self .unary) fun blamed => do
    note blamed
    return .nothing
  return .operation .unary [value]

/-- `await` and its operand, after the word, which stands at `start`. Outside asynchronous functions
the operand may be missing, which makes the word a name, and that is a fault. -/
def awaited (self : Grammar) (start : Place) : Read Tree := do
  if ← at? .star then fail
  let context ← read
  let closes := [.closeParen, .closeBracket, .comma].any ((← token) == .mark ·)
  if !context.inAsync && (closes || (← atEnd)) then
    note start
    return .name "await"
  noteIf ((context.inFunction && !context.inAsync) || (context.inParameters && !context.inFunction))
    start
  return .operation .await [← self .unary]

def asserted (self : Grammar) : Read Tree := do
  if ← eatWord "const" then
    expect .greater
    return .marked .constant (← self .unary) .nothing
  let type ← wholeType self
  expect .greater
  return .assertion type (← self .unary)

def stepped (self : Grammar) : Read Tree := do
  let start ← place
  let target ← self .unary
  noteIf (!target.isSimpleTarget) start
  return .operation .step [target]

def unary (self : Grammar) : Read Tree := do
  let start ← place
  if ← eat .less then return ← asserted self
  if ← eat .step then return ← stepped self
  if ← atSign then return ← signed self
  if ← eatWord "await" then return ← awaited self start
  match ← operand self with
  | .arrow parts result => return .arrow parts result
  | target =>
      if (← onNewLine) || !(← at? .step) then return target
      noteIf (!target.isSimpleTarget) start
      step
      return .operation .step [target]

def conditional (self : Grammar) : Read Tree := do
  let start ← place
  match ← leadingOperand self with
  | .arrow parts result => return .arrow parts result
  | first =>
      let test ← operations self (← read).limit 0 start first
      if ← eat .question then branches self test else return test

def beginsYielded (token : Token) : Bool :=
  beginsExpression token || token == .mark .star || token == .mark .less || token == .mark .slash ||
    token == .mark .slashUpdate || token == .mark .at

/-- `yield` and its value, which may be missing. It does not stand among the parameters of a
generator. -/
def yieldExpression (self : Grammar) : Read Tree := do
  let context ← read
  if context.inParameters && !context.inFunction then fail
  expectWord "yield"
  if (← atEnd) || !beginsYielded (← token) then return .nothing
  discard (eat .star)
  return .group [← self .assignment]

/-- An expression without a comma and without type parameters. -/
def plainAssignment (self : Grammar) : Read Tree := do
  if (← read).inGenerator && (← atWord "yield") then return ← yieldExpression self
  allowArrow
  let start ← place
  match ← conditional self with
  | .arrow parts result => return .arrow parts result
  | .operation .await operands => assignmentRest self start (.operation .await operands)
  | .operation kind operands => return .operation kind operands
  | target => assignmentRest self start target

def genericArrow (self : Grammar) : Read Tree := do
  let types ← typeParameters? self .functions
  match ← inContext (fun context => { context with beforeColon := false })
    (plainAssignment self) with
  | .arrow parts result => return .arrow (parts ++ [types]) result
  | _ => fail

def assignment (self : Grammar) : Read Tree := do
  if (← at? .less) && (← following).token.isWord then
    if let some tree ← attempt (genericArrow self) then return tree
  plainAssignment self

def expression (self : Grammar) : Read Tree := do
  let first ← self .assignment
  unless ← at? .comma do return first
  let rest ← many do
    if ← eat .comma then return some (← self .assignment)
    return none
  return .group (first :: rest)

end RouteManifest.Script.Grammar
