import RouteManifest.Script.Grammar.Expression

/-!
Classes.
-/

namespace RouteManifest.Script.Grammar

open Read

/-! ### Words before members -/

/-- What stands before the key of a member of a class. -/
structure MemberWords where
  start : Place
  marks : List Tree
  isDeclared : Bool := false
  /-- Whether a word tells who may use the member. -/
  hasAccess : Bool := false
  /-- The place of a `static` in front of the words of free order. -/
  staticPlace : Option Place := none
  isStatic : Bool := false
  isAbstract : Bool := false
  isOverride : Bool := false
  isReadonly : Bool := false
  isAccessor : Bool := false
  /-- The place of the last of the words of free order. -/
  lastWord : Option Place := none

/-- Steps over the words before a member whose order is mostly free. `derived` tells whether the
class extends another one. -/
def freeMemberWords (derived : Bool) : Nat → MemberWords → Read MemberWords
  | 0, _ => fail
  | limit + 1, words => do
      let start ← place
      if (← atWord "static") && (← following).token == .mark .openBrace then return words
      match ← modifier? ["abstract", "readonly", "override", "static"] with
      | none => return words
      | some word =>
          let words := { words with lastWord := some start }
          match word with
          | "abstract" =>
              noteIf (words.isAbstract || words.isOverride) start
              freeMemberWords derived limit { words with isAbstract := true }
          | "readonly" =>
              noteIf words.isReadonly start
              freeMemberWords derived limit { words with isReadonly := true }
          | "override" =>
              noteIf (words.isOverride || words.isReadonly || words.isDeclared || !derived) start
              freeMemberWords derived limit { words with isOverride := true }
          | _ =>
              noteIf words.isOverride start
              freeMemberWords derived limit { words with isStatic := true }

/-! ### Keys of members -/

structure MemberKey where
  tree : Tree
  start : Place
  isPrivate : Bool := false

def MemberKey.namesConstructor (key : MemberKey) : Bool :=
  match key.tree with
  | .name text => text == "constructor"
  | .text value => value == some "constructor"
  | _ => false

/-- The key of a member of a class. No private name is `#constructor`. -/
def memberKey (self : Grammar) : Read MemberKey := do
  let start ← place
  if ← at? .hash then
    noteIf ((← privateName) == "constructor") start
    return { tree := .nothing, start, isPrivate := true }
  return { tree := ← key self, start }

/-! ### Members -/

structure ClassMember where
  tree : Tree
  start : Place
  isAbstract : Bool := false
  constructs : Bool := false

/-- A method from its type parameters or parameters on, with the key before it. -/
def method (self : Grammar) (words : MemberWords) (key : MemberKey) (async generator : Bool)
    (check : List Parameter → Read Unit) : Read ClassMember := do
  let parts ← functionParts self async generator check
  noteIf (if key.isPrivate then words.hasAccess else words.isAbstract && parts.body.isSome)
    words.start
  return { tree := .group [key.tree, parts.tree words.marks], start := words.start,
           isAbstract := words.isAbstract && !key.isPrivate }

/-- A property after its key and the question mark behind that, if there is one. An abstract one has
no value. -/
def property (self : Grammar) (words : MemberWords) (key : MemberKey) (optional : Bool) :
    Read ClassMember := do
  if key.namesConstructor then failAt key.start
  noteIf (key.isPrivate && (words.isDeclared || words.isAbstract)) key.start
  unless optional do discard (eat .not)
  let type ← typeAnnotation self
  let value ← inContext (fun context => { context with inField := true, allowsIn := true })
    (initializer? self)
  unless ← eatEnd do note (← place)
  let misplaced := if key.isPrivate then words.hasAccess else words.isAbstract && value.isSome
  noteIf (misplaced && !words.isAccessor) words.start
  return { tree := .group ([key.tree] ++ value.toList ++ [type] ++ words.marks)
           start := words.start
           isAbstract := words.isAbstract && !key.isPrivate && !words.isAccessor }

/-- Whether a property goes on or ends after its key. `byLine` tells whether the end of a line ends
it. -/
def atPropertyRest (byLine : Bool) : Read Bool := do
  match ← token with
  | .mark .not | .mark .colon | .mark .assign | .mark .closeBrace | .mark .semicolon => return true
  | _ => if byLine then atEnd else return false

/-- A method or property whose key is the word that has just been stepped over at `start`, if one
goes on from here. -/
def memberNamed? (self : Grammar) (words : MemberWords) (start : Place) (text : String)
    (byLine : Bool) :
    Read (Option ClassMember) := do
  let key : MemberKey := { tree := .name text, start }
  if opensSignature (← token) then return some (← method self words key false false fun _ => return)
  unless (← atPropertyRest byLine) || (← at? .question) do return none
  return some (← property self words key (← eat .question))

/-- The parameters and the body of a constructor, with the key before them. A constructor has no
type parameters and no type of its result, and without a body its parameters declare nothing and
have no default values. -/
def constructor (self : Grammar) (words : MemberWords) (key : MemberKey) : Read ClassMember := do
  noteIf words.isOverride words.start
  if ← at? .less then
    let typesPlace ← place
    let first ← following
    discard (typeParameters? self .functions)
    note (if first.token == .mark .greater then typesPlace else first.start)
  expect .openParen
  let values ← parameters self true
  expect .closeParen
  if ← eat .colon then
    let resultPlace ← place
    discard (wholeType self)
    note resultPlace
  let body ← inContext (fun context => { context with inAsync := false, inGenerator := false }) do
    functionBody? self (values.all (·.isSimple))
  if body.isNone then
    noteAll (values.filterMap (·.property))
    noteAll ((values.filter (·.hasDefault)).map (·.start))
  noteAll words.staticPlace.toList
  if words.isAbstract then noteAll words.lastWord.toList
  return { tree := .group ([key.tree] ++ values.map (·.tree) ++ body.toList), start := words.start,
           constructs := body.isSome }

def staticBlock (self : Grammar) (start : Place) : Read ClassMember := do
  let tree ← inContext (fun context => { context with inField := true }) (self .block)
  return { tree, start }

def generatorMethod (self : Grammar) (words : MemberWords) : Read ClassMember := do
  expect .star
  let key ← memberKey self
  noteIf (words.isReadonly || key.namesConstructor) words.start
  method self words key false true fun _ => return

/-- An asynchronous method after its `async`. It is not the constructor. -/
def asyncMethod (self : Grammar) (words : MemberWords) : Read ClassMember := do
  let start ← place
  let misplaced := (← modifier? ["override"]).isSome
  noteIf misplaced start
  let generator ← eat .star
  let key ← memberKey self
  if key.namesConstructor then failAt key.start
  noteIf words.isReadonly words.start
  discard (eat .question)
  method self words key true generator fun _ => return

def memberAccessor (self : Grammar) (words : MemberWords) (reads : Bool) (start : Place) :
    Read ClassMember := do
  let key ← memberKey self
  noteIf (words.isReadonly || key.namesConstructor) start
  method self words key false false (checkAccessor reads start)

def keyedClassMember (self : Grammar) (words : MemberWords) : Read ClassMember := do
  let key ← memberKey self
  let optional ← eat .question
  if opensSignature (← token) then
    noteIf words.isDeclared words.start
    if words.isReadonly then failAt words.start
    if key.namesConstructor then return ← constructor self words key
    return ← method self words key false false fun _ => return
  let text := match key.tree with
    | .name text => text
    | _ => ""
  let generatorFollows := (← onNewLine) && (← at? .star)
  let reads := text == "get"
  if (reads || text == "set") && !(← atPropertyRest false) && !generatorFollows then
    return ← memberAccessor self words reads key.start
  if ← atPropertyRest true then return ← property self words key optional
  if text == "async" && !(← onNewLine) then asyncMethod self words else fail

/-- A member of a class after `declare`, the word that tells who may use it, `static` and
`accessor`. -/
def wordedMember (self : Grammar) (derived : Bool) (words : MemberWords) : Read ClassMember := do
  let words ← freeMemberWords derived (← read).limit words
  let mayBeAccessor := !words.isReadonly && (← following).token != .mark .openParen
  let isAccessor ←
    if words.isAccessor then pure true else if mayBeAccessor then eatWord "accessor" else pure false
  let words := { words with isAccessor }
  if words.isStatic && (← at? .openBrace) then
    noteIf (words.isDeclared || words.hasAccess) words.start
    return ← staticBlock self words.start
  if (← atWord "static") && (← following).token == .mark .openBrace then
    noteAll words.lastWord.toList
    noteAll words.staticPlace.toList
    step
    return ← staticBlock self words.start
  if !(words.isAbstract || words.isOverride || words.hasAccess) && (← at? .openBracket) &&
      (← beginsIndex) then
    return { tree := ← indexSignature self, start := words.start }
  if ← at? .star then generatorMethod self words else keyedClassMember self words

/-- A member of a class. Each of `declare`, `static` and `accessor` may turn out to be its key. -/
def classMember (self : Grammar) (derived : Bool) : Read ClassMember := do
  let start ← place
  let marks ← decorators self
  let firstPlace ← place
  let declaredFirst ← eatWord "declare"
  let words : MemberWords := { start, marks, hasAccess := ← accessWord }
  let secondPlace ← place
  let isDeclared ← if declaredFirst then pure true else eatWord "declare"
  if isDeclared then
    let declarePlace := if declaredFirst then firstPlace else secondPlace
    if let some member ← memberNamed? self words declarePlace "declare" true then return member
  let staticPlace ← place
  let isStatic ← eatWord "static"
  let accessorPlace ← place
  let isAccessor ← eatWord "accessor"
  let words := { words with isDeclared }
  if isStatic then
    if let some member ← memberNamed? self words staticPlace "static" false then return member
  if isAccessor then
    if let some member ← memberNamed? self words accessorPlace "accessor" true then return member
  wordedMember self derived
    { words with staticPlace := if isStatic then some staticPlace else none, isStatic, isAccessor }

/-- The members of a class up to its closing brace. At most one constructor has a body;
`constructed` tells whether one was read. A class that is never closed is a fault. -/
def classMembers (self : Grammar) (derived : Bool) : Nat → Bool → Read (List ClassMember)
  | 0, _ => fail
  | limit + 1, constructed => do
      if ← eat .closeBrace then return []
      if (← token) == .endOfText then
        note (← place)
        return []
      if ← eat .semicolon then return ← classMembers self derived limit constructed
      let member ← classMember self derived
      noteIf (member.constructs && constructed && !(← read).ambient) member.start
      return member :: (← classMembers self derived limit (constructed || member.constructs))

/-! ### What a class is made from -/

def atHeritageEnd : Read Bool := do
  return (← at? .openBrace) || (← atWord "implements") || (← atWord "extends")

/-- An expression and its type arguments, which are visited apart from it. -/
def withTypes (self : Grammar) : Tree → Read (Tree × Tree)
  | .marked .instantiated inner types => return (inner, types)
  | tree => do
      let types ← if ← at? .less then typeArguments self else pure .nothing
      return (tree, types)

/-- A type that is extended or implemented: a dotted name with type arguments. Anything else that
can follow a name is a fault. -/
def heritageElement (self : Grammar) : Read Tree := do
  let start ← place
  let tree ← suffixes self start false false (.name (← anyWord))
  match tree with
  | .name _ | .member .plain _ _ | .marked .instantiated _ _ => pure ()
  | _ => note start
  let (name, types) ← withTypes self tree
  return .group [name, types]

def heritageList (self : Grammar) : Read (List Tree) :=
  many do
    if ← atHeritageEnd then return none
    let element ← heritageElement self
    unless ← eat .comma do
      unless ← atHeritageEnd do fail
    return some element

def baseClass (self : Grammar) : Read (Tree × Tree) := do withTypes self (← operand self)

/-- What a class extends and implements. A word that stands a second time, or `extends` behind
`implements`, is a fault. -/
def heritage (self : Grammar) : Read (Option (Tree × Tree) × List Tree) := do
  let first? ← if ← eatWord "extends" then some <$> baseClass self else pure none
  let again ← place
  if ← eatWord "extends" then
    note again
    discard (baseClass self)
  let interfaces ← if ← eatWord "implements" then heritageList self else pure []
  let again ← place
  if ← eatWord "implements" then
    note again
    discard (heritageList self)
  let late ← place
  if ← eatWord "extends" then
    note late
    let base ← baseClass self
    return (some (first?.getD base), interfaces)
  return (first?, interfaces)

/-- Whether a word means a type of the language, so that no class or interface goes by it. -/
def isTypeWord (text : String) : Bool :=
  ["string", "null", "number", "object", "any", "unknown", "boolean", "bigint", "symbol", "void",
    "never", "intrinsic"].contains text

/-- The name of a class. A class declaration has one, the class of an expression may have one. -/
def className (named : Bool) : Read Unit := do
  let start ← place
  if named || (← atWord "this") || (← token).isReference then
    if ← atWord "let" then fail
    noteIf (isTypeWord (← bindingIdentifier)) start

/-- A class from its keyword on. Only an abstract class has abstract members. -/
def classFrom (self : Grammar) (form : ClassForm) (named isAbstract : Bool) (marks : List Tree) :
    Read Tree := do
  expectWord "class"
  className named
  let types ← typeParameters? self .classes
  let (base?, interfaces) ← heritage self
  expect .openBrace
  let members ← inContext (fun context => { context with hasNewTarget := true }) do
    classMembers self base?.isSome (← read).limit false
  unless isAbstract do noteAll ((members.filter (·.isAbstract)).map (·.start))
  let (base, baseTypes) := base?.getD (.nothing, .nothing)
  return .class form marks (members.map (·.tree)) (.group ([base, types, baseTypes] ++ interfaces))

end RouteManifest.Script.Grammar
