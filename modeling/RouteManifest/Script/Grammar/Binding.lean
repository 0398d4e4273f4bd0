import RouteManifest.Script.Reading

/-!
Keys of members, patterns that declare names, and parameters.
-/

namespace RouteManifest.Script.Grammar

open Read

def allowingIn {α : Type} (reader : Read α) : Read α :=
  inContext (fun context => { context with allowsIn := true }) reader

/-- Reads where a colon belongs to no conditional expression outside. -/
def besideColon {α : Type} (reader : Read α) : Read α :=
  inContext (fun context => { context with beforeColon := false }) reader

/-- Reads between parentheses, where `in` is an operator and a colon belongs to no conditional
expression outside. -/
def enclosed {α : Type} (reader : Read α) : Read α := allowingIn (besideColon reader)

/-- A type between brackets or after a mark, where it may be conditional. -/
def wholeType (self : Grammar) : Read Tree :=
  inContext (fun context => { context with allowsConditional := true }) (self .type)

/-! ### Keys -/

/-- The expression of a computed key, after its opening bracket. A sequence is a fault. -/
def computedKey (self : Grammar) : Read Tree := do
  let start ← place
  let first ← allowingIn (self .assignment)
  let rest ← many do
    if ← eat .comma then return some (← allowingIn (self .assignment))
    return none
  unless rest.isEmpty do note start
  expect .closeBracket
  return .group (first :: rest)

def key (self : Grammar) : Read Tree := do
  match ← token with
  | .word text _ => step; return .name text
  | .text value => step; return .text value
  | .number => step; return .nothing
  | .mark .openBracket => step; computedKey self
  | _ => fail

/-- A private name, from its `#` on. The name follows the sign at once. -/
def privateName : Read String := do
  let start ← place
  let following := (← get).current.rest
  expect .hash
  unless (← place).length == following.length do failAt start
  anyWord

/-! ### Modifiers -/

/-- Whether a modifier can stand before a token. -/
def followsModifier : Token → Bool
  | .word _ _ | .text _ | .number => true
  | .mark .openBracket | .mark .openBrace | .mark .star | .mark .ellipsis | .mark .hash => true
  | _ => false

/-- Steps over one of some words if it stands before something that it can modify, and gives it. -/
def modifier? (words : List String) : Read (Option String) := do
  match ← token with
  | .word text _ =>
      unless words.contains text && followsModifier (← following).token do return none
      step
      return some text
  | .endOfText | .unreadable _ => fail
  | _ => return none

def accessWords : List String := ["public", "private", "protected"]

/-- Steps over a word that tells who may use a member, and tells whether there was one. The words
that belong before type parameters are faults here. -/
def accessWord : Read Bool := do
  let start ← place
  match ← modifier? (accessWords ++ ["in", "out"]) with
  | none => return false
  | some word =>
      noteIf (!accessWords.contains word) start
      return accessWords.contains word

/-- Steps over a word that belongs before a property, and tells whether there was one. -/
def propertyWord : Read Bool := do
  match (← following).token with
  | .word _ _ | .mark .openBrace | .mark .openBracket =>
      return (← eatOneOf ("readonly" :: accessWords)).isSome
  | _ => return false

/-! ### Patterns -/

def typeAnnotation (self : Grammar) : Read Tree := do
  if ← eat .colon then wholeType self else return .nothing

def initializer? (self : Grammar) : Read (Option Tree) := do
  if ← eat .assign then return some (← self .assignment)
  return none

/-- A pattern and its default value. Code from elsewhere has none. -/
def patternWithDefault (self : Grammar) : Read Tree := do
  let start ← place
  let target ← self .binding
  match ← allowingIn (initializer? self) with
  | none => return target
  | some value =>
      noteIf (← read).ambient start
      return .assign target value

def arrayElement (self : Grammar) : Read (Tree × Option Place) := do
  let start ← place
  if ← eat .ellipsis then return (.spread (← self .binding), some start)
  return (← patternWithDefault self, none)

def objectMember (self : Grammar) : Read Tree := do
  let start ← place
  if ← eat .ellipsis then return .located start (.spread (← self .binding))
  let name ← key self
  if ← eat .colon then return .located start (.property name (← patternWithDefault self))
  match name with
  | .name text =>
      match ← allowingIn (initializer? self) with
      | some value => return .located start (.defaulted name value)
      | none => return .located start (.shorthand text)
  | _ => fail

/-- Notes what is wrong with the rest members of an object pattern. There is one at most: the last
member, which is a name and has no comma behind it. -/
def checkRestMembers (comma : Option Place) : List Tree → Read Unit
  | [] => return
  | [.located start (.spread target)] =>
      if target.isName then noteAll comma.toList else failAt start
  | .located start (.spread _) :: rest => do
      note start
      checkRestMembers comma rest
  | _ :: rest => checkRestMembers comma rest

/-- A name or pattern that is declared. Where code from elsewhere is described a pattern may be
optional. -/
def binding (self : Grammar) : Read Tree := do
  match ← token with
  | .mark .openBracket =>
      step
      let elements ← listWithRest .closeBracket (some .hole) (arrayElement self)
      expect .closeBracket
      if (← read).ambient then discard (eat .question)
      return .array elements none
  | .mark .openBrace =>
      step
      let (members, comma) ← besideColon (commaListAndEnd .closeBrace (objectMember self))
      checkRestMembers comma members
      if (← read).ambient then discard (eat .question)
      return .object members none
  | _ => return .name (← bindingIdentifier)

/-! ### Parameters -/

def decorators (self : Grammar) : Read (List Tree) :=
  many do
    if ← at? .at then return some (← self .decorator)
    return none

structure Parameter where
  marks : List Tree
  pattern : Tree
  /-- Where it begins, its decorators apart. -/
  start : Place
  /-- Whether it stands for `this`, to give that a type. -/
  isReceiver : Bool := false
  isRest : Bool := false
  hasDefault : Bool := false
  /-- Where it begins with its decorators, if it declares a property as well. -/
  property : Option Place := none

def Parameter.isSimple (parameter : Parameter) : Bool :=
  match parameter.pattern with
  | .declarator (.name _) _ none => true
  | _ => false

def Parameter.tree (parameter : Parameter) : Tree := .group (parameter.marks ++ [parameter.pattern])

/-- A rest parameter after its dots. A default value and a question mark are faults, and in a
constructor they are no part of it. -/
def restParameter (self : Grammar) (constructing : Bool) (start : Place) (marks : List Tree) :
    Read Parameter := do
  let targetPlace ← place
  let target ← self .binding
  let value ← if constructing then pure none else initializer? self
  noteIf value.isSome targetPlace
  let type ← typeAnnotation self
  unless constructing do
    let questionPlace ← place
    noteIf (← eat .question) questionPlace
  return { marks, pattern := .spread (.declarator target type value), start, isRest := true }

/-- A parameter after its decorators and the words that belong to constructors. -/
def plainParameter (self : Grammar) (marks : List Tree) : Read Parameter := do
  let start ← place
  let modified ← propertyWord
  let patternStart ← place
  let target ← self .binding
  let optional ← eat .question
  let type ← typeAnnotation self
  let hasDefault ← at? .assign
  noteIf (hasDefault && optional) patternStart
  let value ← initializer? self
  noteIf ((hasDefault && (← read).ambient) || modified) start
  let isReceiver := match target with
    | .name text => text == "this" && !hasDefault
    | _ => false
  return { marks, pattern := .declarator target type value, start, isReceiver, hasDefault }

/-- A parameter of a constructor after its decorators, which begin at `start`. It may declare a
property, and is a name or has a default value then. -/
def constructorParameter (self : Grammar) (start : Place) (marks : List Tree) : Read Parameter := do
  let access ← accessWord
  let isOverride := (← modifier? ["override"]).isSome
  let isReadonly := (← modifier? ["readonly"]).isSome
  let parameter ← plainParameter self marks
  unless access || isOverride || isReadonly do return parameter
  match parameter.pattern with
  | .declarator (.name _) _ _ | .declarator _ _ (some _) =>
      return { parameter with property := some start }
  | _ => failAt parameter.start

def parameters (self : Grammar) (constructing : Bool) : Read (List Parameter) :=
  listWithRest .closeParen none do
    let start ← place
    let marks ← decorators self
    let patternStart ← place
    if ← eat .ellipsis
      then return (← restParameter self constructing patternStart marks, some patternStart)
    let parameter ←
      if constructing then constructorParameter self start marks else plainParameter self marks
    return (parameter, none)

end RouteManifest.Script.Grammar
