import RouteManifest.Script.Grammar.Binding

/-!
Types. They declare nothing, but their computed keys are expressions, so types have trees as well.
-/

namespace RouteManifest.Script.Grammar

open Read

/-! ### Templates -/

/-- A template from its opening quote on. `inner` reads a substitution. Escapes that mean nothing
are allowed in tagged templates only. -/
def template (tagged : Bool) (inner : Read Tree) : Read Tree := do
  let opening ← place
  let children ← loop opening (← read).limit
  return .group children
where
  /-- Reads on after the opening quote or after the brace that closes a substitution. -/
  loop (opening : Place) : Nat → Read (List Tree)
    | 0 => fail
    | limit + 1 => do
        match templatePart? none (← get).current.rest with
        | none => failAt opening
        | some part =>
            if let some bad := part.fault then
              unless tagged do failAt bad
            stepTo part.rest
            if part.last then return []
            let value ← inner
            unless ← at? .closeBrace do fail
            return value :: (← loop opening limit)

/-! ### Arguments and parameters -/

def atAngle : Read Bool := do
  return (← at? .less) || (← at? (.operator .shift))

/-- Steps over an opening angle bracket, which is taken apart from a second one. -/
def openAngle : Read Unit := do
  if ← at? (.operator .shift) then stepTo ('<' :: (← get).current.rest) else expect .less

/-- Type arguments between angle brackets. It is a fault if there are none. -/
def typeArguments (self : Grammar) : Read Tree := do
  let start ← place
  openAngle
  let types ← commaList .greater (wholeType self)
  noteIf types.isEmpty start
  return .group types

def typeArguments? (self : Grammar) : Read Tree := do
  if !(← onNewLine) && (← atAngle) then typeArguments self else return .nothing

/-- What type parameters belong to. -/
inductive TypeOwner where
  | functions
  | classes
  /-- Interfaces and the names of types. -/
  | names

def allowsWord : TypeOwner → String → Bool
  | .functions, word => word == "const"
  | .classes, word => word == "const" || word == "in" || word == "out"
  | .names, word => word == "in" || word == "out"

/-- Steps over the words before a type parameter. Each must be allowed and stands once, and `in`
comes before `out`. -/
def typeParameterWords (owner : TypeOwner) : Nat → List String → Read Unit
  | 0, _ => fail
  | limit + 1, before => do
      let start ← place
      let found? ← modifier? ["public", "private", "protected", "readonly", "abstract", "const",
        "override", "in", "out"]
      if let some found := found? then
        let repeated := found != "const" && before.contains found
        noteIf (!allowsWord owner found || repeated || (found == "in" && before.contains "out"))
          start
        typeParameterWords owner limit (found :: before)

def typeParameter (self : Grammar) (owner : TypeOwner) : Read Tree := do
  typeParameterWords owner (← read).limit []
  discard anyWord
  let bound ← if ← eatWord "extends" then wholeType self else pure .nothing
  let fallback ← if ← eat .assign then wholeType self else pure .nothing
  return .group [bound, fallback]

def typeParameters? (self : Grammar) (owner : TypeOwner) : Read Tree := do
  unless ← eat .less do return .nothing
  return .group (← commaList .greater (typeParameter self owner))

/-! ### Results of functions -/

/-- The type of a result, which may be a predicate on a parameter. -/
def resultType (self : Grammar) : Read Tree := do
  let asserts := (← atWord "asserts") && (← following).token.isReference
  if asserts then step
  let next ← following
  let tests := (← token).isReference && next.token == .word "is" false && !next.lineEnd
  unless asserts || tests do return ← wholeType self
  step
  unless tests do return .nothing
  step
  wholeType self

def resultAnnotation (self : Grammar) : Read Tree := do
  if ← eat .colon then resultType self else return .nothing

/-- The parameters of a function without a body, between parentheses. They have no default
values. -/
def describedParameters (self : Grammar) : Read (List Parameter) := do
  expect .openParen
  let values ← parameters self false
  if values.any (·.hasDefault) then fail
  expect .closeParen
  return values

def describedPatterns (self : Grammar) : Read (List Tree) :=
  return (← describedParameters self).map (·.pattern)

def signature (self : Grammar) : Read Tree := do
  let types ← typeParameters? self .functions
  let values ← describedPatterns self
  let result ← resultAnnotation self
  return .group (values ++ [result, types])

def functionType (self : Grammar) : Read Tree := do
  let types ← typeParameters? self .functions
  let values ← describedPatterns self
  expect .arrow
  let result ← resultType self
  return .group (values ++ [types, result])

/-- Whether the parenthesis at the current token begins parameters and not a type. -/
def beginsParameters (self : Grammar) : Read Bool :=
  foresee do
    expect .openParen
    match ← token with
    | .mark .closeParen | .mark .ellipsis => return true
    | _ =>
        discard propertyWord
        if (← token).isWord then step else discard (self .binding)
        match ← token with
        | .mark .colon | .mark .comma | .mark .question | .mark .assign => return true
        | .mark .closeParen => step; at? .arrow
        | _ => return false

def beginsFunctionType (self : Grammar) : Read Bool := do
  match ← token with
  | .mark .less => return true
  | .mark .openParen => beginsParameters self
  | _ => return false

/-! ### Members -/

/-- The key of a member of an object type. A literal may have members of its own, and a private name
is a fault. -/
def signatureKey (self : Grammar) : Read Tree := do
  let start ← place
  match ← token with
  | .mark .openBracket =>
      step
      let computed ← self .assignment
      expect .closeBracket
      return computed
  | .text _ | .number => self .member
  | .mark .hash =>
      discard privateName
      note start
      return .nothing
  | _ => return .name (← anyWord)

def memberEnd : Read Unit := do
  unless ← eat .comma do expectEnd

def beginsIndex : Read Bool :=
  foresee do
    expect .openBracket
    unless (← token).isReference do return false
    step
    return (← at? .colon) || (← at? .comma)

/-- The index of a type: its parameter in brackets and its type. A comma in place of the colon is a
fault. -/
def indexSignature (self : Grammar) : Read Tree := do
  expect .openBracket
  let start ← place
  discard anyWord
  let comma ← eat .comma
  noteIf comma start
  unless comma do expect .colon
  let parameter ← wholeType self
  expect .closeBracket
  let type ← typeAnnotation self
  memberEnd
  return .group [parameter, type]

def opensSignature (token : Token) : Bool := token == .mark .openParen || token == .mark .less

/-- An accessor of an object type, from its word on. One that reads has no parameters. One that
writes has some, and no type of its result. -/
def accessorSignature (self : Grammar) : Read Tree := do
  let reads ← atWord "get"
  step
  let name ← signatureKey self
  if reads then
    expect .openParen
    expect .closeParen
    let type ← typeAnnotation self
    memberEnd
    return .group [name, type]
  match ← describedPatterns self with
  | [] => fail
  | value :: _ =>
      memberEnd
      return .group [name, value]

/-- A property or method of an object type. A method is not `readonly`. -/
def memberSignature (self : Grammar) (isReadonly : Bool) : Read Tree := do
  let name ← signatureKey self
  discard (eat .question)
  let type ← if opensSignature (← token) then (do
      if isReadonly then fail
      signature self)
    else typeAnnotation self
  memberEnd
  return .group [name, type]

/-- A member of an object type. What looks like an accessor but is none is a property or method of
that name. -/
def typeMember (self : Grammar) : Read Tree := do
  let constructs := (← atWord "new") && opensSignature (← following).token
  if constructs || opensSignature (← token) then
    if constructs then step
    let member ← signature self
    memberEnd
    return member
  let isReadonly := (← modifier? ["readonly"]).isSome
  if (← at? .openBracket) && (← beginsIndex) then return ← indexSignature self
  if !isReadonly && ((← atWord "get") || (← atWord "set")) then
    if let some member ← attempt (accessorSignature self) then return member
  memberSignature self isReadonly

def typeMembers (self : Grammar) : Read Tree := do
  expect .openBrace
  return .group (← manyUntil .closeBrace (typeMember self))

def beginsMapping : Read Bool :=
  foresee do
    expect .openBrace
    if ← eatSign then atWord "readonly"
    else
      discard (eatWord "readonly")
      expect .openBracket
      unless (← token).isReference do return false
      step
      atWord "in"

def mapping (self : Grammar) : Read Tree := do
  expect .openBrace
  if ← eatSign then expectWord "readonly" else discard (eatWord "readonly")
  expect .openBracket
  discard anyWord
  expectWord "in"
  let keys ← wholeType self
  let rename ← if ← eatWord "as" then wholeType self else pure .nothing
  expect .closeBracket
  if ← eatSign then expect .question else discard (eat .question)
  let type ← typeAnnotation self
  expectEnd
  expect .closeBrace
  return .group [keys, rename, type]

/-- Whether an element of a tuple may be missing, must be there, or stands for any number of
them. -/
inductive Presence where
  | required
  | optional
  | rest
  deriving DecidableEq

def tupleLabel : Read Unit := do
  discard (eat .ellipsis)
  discard anyWord
  discard (eat .question)
  expect .colon

/-- An element of a tuple type. Its presence is that of its type, whatever its label says. -/
def tupleElement (self : Grammar) : Read (Tree × Presence) := do
  discard (attempt tupleLabel)
  if ← eat .ellipsis then return (← wholeType self, .rest)
  let type ← wholeType self
  if ← eat .question then return (type, .optional)
  return (type, .required)

/-- Whether no required element comes after an optional one. -/
def arePresent : List Presence → Bool
  | .optional :: rest => !rest.contains .required && arePresent rest
  | _ :: rest => arePresent rest
  | [] => true

def tuple (self : Grammar) : Read Tree := do
  let start ← place
  expect .openBracket
  let elements ← commaList .closeBracket (tupleElement self)
  unless arePresent (elements.map (·.2)) do failAt start
  return .group (elements.map (·.1))

/-! ### Names -/

/-- A dotted name. `keywords` tells whether keywords may follow its dots. A dot that no name follows
is only a fault. -/
def dottedName (keywords : Bool) : Read Unit := do
  let first ← anyWord
  noteIf (first == "void") (← place)
  discard <| many do
    unless ← eat .dot do return none
    unless (← token).isWord || (← at? .hash) do
      note (← place)
      return none
    discard (if keywords then anyWord else identifier)
    return some ()

def importOptions (self : Grammar) : Read Tree := do
  expect .openBrace
  expectWord "with"
  expect .colon
  let attributes ← self .objectLiteral
  discard (eat .comma)
  expect .closeBrace
  return attributes

/-- A type imported from a module, from its keyword on. A module that is not named by a string is a
fault. -/
def importType (self : Grammar) : Read Tree := do
  expectWord "import"
  expect .openParen
  let start ← place
  match ← token with
  | .text _ => step
  | .unreadable _ => fail
  | _ => step; note start
  let options ← if (← eat .comma) && (← at? .openBrace) then importOptions self else pure .nothing
  expect .closeParen
  if ← eat .dot then dottedName false
  let types ← if ← atAngle then typeArguments self else pure .nothing
  return .group [types, options]

def typeQuery (self : Grammar) : Read Tree := do
  expectWord "typeof"
  let queried ← if ← atWord "import" then importType self else (do
    dottedName true
    return .nothing)
  return .group [queried, ← typeArguments? self]

/-- The name of a type with its type arguments. A word that belongs before a property is a fault. -/
def typeName (self : Grammar) : Read Tree := do
  let start ← place
  let modified ← propertyWord
  dottedName true
  let types ← typeArguments? self
  noteIf modified start
  return types

/-! ### Types by how tightly they bind -/

def basicTypes : List String :=
  ["any", "bigint", "boolean", "intrinsic", "never", "number", "object", "string", "symbol",
    "undefined", "unknown", "null", "void"]

def namesType (text : String) : Bool :=
  text != "let" &&
    (!reservedWords.contains text || text == "void" || text == "null" || text == "break")

/-- `this` as a type, which may begin a predicate. -/
def receiverType (self : Grammar) : Read Tree := do
  expectWord "this"
  if ← eatWordHere "is" then wholeType self else return .nothing

def wordType (self : Grammar) (text : String) : Read Tree := do
  match text with
  | "typeof" => typeQuery self
  | "import" => importType self
  | "this" => receiverType self
  | "true" | "false" => step; return .nothing
  | _ =>
      unless namesType text do fail
      let next ← following
      if text == "asserts" && next.token == .word "this" false then
        step
        step
        if ← eatWord "is" then wholeType self else return .nothing
      else if basicTypes.contains text && next.token != .mark .dot then
        step
        return .nothing
      else typeName self

def simpleType (self : Grammar) : Read Tree := do
  match ← token with
  | .text _ | .number => step; return .nothing
  | .mark .minus => do
      step
      match ← token with
      | .number => step; return .nothing
      | _ => fail
  | .mark .openBrace => do
      if ← beginsMapping then mapping self else typeMembers self
  | .mark .openBracket => tuple self
  | .mark .openParen => do
      step
      let type ← wholeType self
      expect .closeParen
      return type
  | .mark .backquote => template true (wholeType self)
  | .word text false => wordType self text
  | .word _ true => typeName self
  | _ => fail

def postfixType (self : Grammar) : Read Tree := do
  let type ← simpleType self
  extendWhile (fun type => do
    if ← onNewLine then return none
    unless ← eat .openBracket do return none
    if ← eat .closeBracket then return some type
    let index ← wholeType self
    expect .closeBracket
    return some (.group [type, index])) type

/-- A name that a conditional type infers, with its bound. A bound that would be the condition of
another conditional type is not read. -/
def inferredType (self : Grammar) : Read Tree := do
  discard anyWord
  let bound? ← attempt do
    expectWord "extends"
    let bound ← inContext (fun context => { context with allowsConditional := false }) (self .type)
    if (← read).allowsConditional && (← at? .question) then fail
    return bound
  return bound?.getD .nothing

def prefixedType (self : Grammar) : Read Tree := do
  discard (many (eatOneOf ["keyof", "unique", "readonly"]))
  if ← eatWord "infer" then return ← inferredType self
  discard (modifier? ["readonly"])
  postfixType self

/-- Types joined by a mark, which may also stand in front of the first. -/
def joinedTypes (mark : Mark) (item : Read Tree) : Read Tree := do
  discard (eat mark)
  let first ← item
  let rest ← many do
    if ← eat mark then return some (← item)
    return none
  return .group (first :: rest)

def plainType (self : Grammar) : Read Tree := do
  if ← beginsFunctionType self then return ← functionType self
  if ← atWord "new" then
    step
    return ← functionType self
  if (← atWord "abstract") && (← following).token == .word "new" false then
    step
    step
    return ← functionType self
  joinedTypes .bar (joinedTypes .ampersand (prefixedType self))

def type (self : Grammar) : Read Tree := do
  let tested ← plainType self
  unless (← read).allowsConditional do return tested
  unless ← eatWordHere "extends" do return tested
  let bound ← inContext (fun context => { context with allowsConditional := false })
    (plainType self)
  expect .question
  let yes ← wholeType self
  expect .colon
  let no ← wholeType self
  return .group [tested, bound, yes, no]

end RouteManifest.Script.Grammar
