import RouteManifest.Script.Lexeme
import RouteManifest.Script.Tree

/-!
Reading a script token by token. A reader looks at the current token, which it may step over, and
either gives a value or fails at a place. Faults that do not stop the reading are noted on the way,
and only the first of them is kept. A reader that fails leaves the state as it stands, so that
others can go on from there.

Rules that refer to each other are not written as functions that call each other. They are given a
`Grammar`, which reads any `Goal`, and the knot is tied once, over all goals, by a number that
bounds how deeply goals nest.
-/

namespace RouteManifest.Script

/-- What the surroundings allow. -/
structure Context where
  /-- The whole script. -/
  text : List Char
  /-- A bound on the number of steps of any loop. -/
  limit : Nat
  inFunction : Bool := false
  inAsync : Bool := false
  inGenerator : Bool := false
  /-- Whether `new.target` has a meaning. -/
  hasNewTarget : Bool := false
  breakable : Bool := false
  continuable : Bool := false
  labels : List String := []
  /-- Whether `in` is an operator. -/
  allowsIn : Bool := false
  /-- In a branch of a conditional expression, however deep. -/
  inBranch : Bool := false
  /-- Between the `?` and the `:` of a conditional expression. -/
  beforeColon : Bool := false
  /-- In a declaration that describes code from elsewhere. -/
  ambient : Bool := false
  /-- Whether a type may be followed by `extends`. -/
  allowsConditional : Bool := true
  /-- Among the parameters of a function, be it inside another function that stands there. -/
  inParameters : Bool := false
  /-- In the value of a field or in a block of a class. -/
  inField : Bool := false
  /-- In the head of a loop that does not await its values. -/
  inLoopHead : Bool := false
  /-- Trying whether a rule fits: faults that do not stop it are passed over. -/
  trying : Bool := false

/-- How far the reading has come. -/
structure State where
  current : Lexeme
  /-- Where the token before it begins. -/
  previous : Place
  /-- How many tokens have been stepped over. -/
  index : Nat := 0
  /-- The token at which an arrow function may begin: the first of the expression being read. -/
  arrowStart : Option Nat := none
  /-- The first fault that did not stop the reading. -/
  fault : Option Place := none

/-- A reader. When it fails it gives the place to blame. -/
abbrev Read (α : Type) := ReaderT Context (ExceptT Place (StateM State)) α

namespace Read

/-! ### Tokens -/

def token : Read Token := return (← get).current.token

def place : Read Place := return (← get).current.start

def previousPlace : Read Place := return (← get).previous

def onNewLine : Read Bool := return (← get).current.lineEnd

def following : Read Lexeme := return Lexeme.read false true (← get).current.rest

/-! ### Failing -/

def failAt {α : Type} (place : Place) : Read α := throw place

def fail {α : Type} : Read α := do
  match ← token with
  | .unreadable place => failAt place
  | _ => failAt (← place)

/-- Fails at the current token because what begins with it is never closed. From here on nothing can
be read. -/
def failUnclosed {α : Type} : Read α := do
  let start ← place
  modify fun state =>
    { state with current := { state.current with token := .unreadable start, rest := [] } }
  failAt start

/-- Notes a fault that does not stop the reading. -/
def note (place : Place) : Read Unit := do
  unless (← read).trying do
    modify fun state => { state with fault := state.fault.or (some place) }

def noteIf (found : Bool) (place : Place) : Read Unit := do
  if found then note place

def noteAll (places : List Place) : Read Unit := places.forM note

/-- Tries a reader, passing over what it notes. Where it fails nothing has been read. -/
def attempt {α : Type} (reader : Read α) : Read (Option α) := fun context => ExceptT.mk fun state =>
  match (reader { context with trying := true }).run state with
  | (.ok value, after) => (.ok (some value), after)
  | (.error _, _) => (.ok none, state)

/-- Looks ahead: whether a reader succeeds with `true` from here on. Nothing has been read
afterwards. -/
def foresee (reader : Read Bool) : Read Bool := fun context => ExceptT.mk fun state =>
  match (reader { context with trying := true }).run state with
  | (.ok found, _) => (.ok found, state)
  | (.error _, _) => (.ok false, state)

/-- Reads, and goes on after a failure from where it came about. -/
def recover {α : Type} (reader : Read α) (goOn : Place → Read α) : Read α :=
  tryCatch reader goOn

def inContext {α : Type} (change : Context → Context) (reader : Read α) : Read α :=
  withReader change reader

/-! ### Single tokens -/

/-- Steps over the current token, to the one that is read from `rest` on. -/
def stepTo (rest : Place) : Read Unit := do
  let lexeme := Lexeme.read false true rest
  modify fun state =>
    { state with
      current := lexeme
      previous := state.current.start
      index := state.index + 1 }
  if let some fault := lexeme.fault then note fault

def step : Read Unit := do stepTo (← get).current.rest

def at? (mark : Mark) : Read Bool := return (← token) == .mark mark

/-- Whether the current token is a word, written without escapes. -/
def atWord (text : String) : Read Bool := return (← token) == .word text false

def eat (mark : Mark) : Read Bool := do
  let found ← at? mark
  if found then step
  return found

def eatWord (text : String) : Read Bool := do
  let found ← atWord text
  if found then step
  return found

/-- Steps over one of some words if it is the current token, and gives it. -/
def eatOneOf (words : List String) : Read (Option String) := do
  match ← token with
  | .word text false =>
      unless words.contains text do return none
      step
      return some text
  | _ => return none

/-- Steps over a word if it is the current token and on the same line as the one before. -/
def eatWordHere (text : String) : Read Bool := do
  if ← onNewLine then return false
  eatWord text

def eatSign : Read Bool := do
  if ← eat .plus then return true
  eat .minus

def expect (mark : Mark) : Read Unit := do
  unless ← eat mark do fail

def expectWord (text : String) : Read Unit := do
  unless ← eatWord text do fail

/-- Whether a statement may end before the current token. -/
def atEnd : Read Bool := do
  match ← token with
  | .mark .semicolon | .mark .closeBrace | .endOfText => return true
  | _ => onNewLine

/-- Ends a statement: steps over a semicolon, or finds a place where none is needed. -/
def eatEnd : Read Bool := do
  if ← eat .semicolon then return true
  atEnd

def expectEnd : Read Unit := do
  unless ← eatEnd do fail

/-! ### Words -/

def anyWord : Read String := do
  match ← token with
  | .word text _ => step; return text
  | _ => fail

/-- An identifier. Words that modules reserve are noted as faults, and so is `enum`. -/
def identifier : Read String := do
  let start ← place
  match ← token with
  | .word text escaped =>
      let reserved := !escaped && (text == "enum" || strictWords.contains text)
      unless escaped || reserved || text == "this" do
        if reservedWords.contains text then fail
        if text == "await" && !(← read).ambient then fail
      noteIf (reserved || (text == "arguments" && (← read).inField)) start
      step
      return text
  | _ => fail

/-- An identifier that is given a meaning. A word that an asynchronous function or a generator
reserves is none, even if it is written with escapes. -/
def bindingIdentifier : Read String := do
  let start ← place
  let text ← identifier
  let context ← read
  noteIf (isFixed text || (context.inAsync && text == "await") ||
    (context.inGenerator && text == "yield")) start
  return text

/-! ### Loops -/

/-- Reads items until `item` gives none, at most as often as the script is long. -/
def many {α : Type} (item : Read (Option α)) : Read (List α) := do
  loop (← read).limit
where
  loop : Nat → Read (List α)
    | 0 => fail
    | limit + 1 => do
        match ← item with
        | none => return []
        | some value => return value :: (← loop limit)

/-- Reads items up to a closing mark, which is stepped over. -/
def manyUntil {α : Type} (closing : Mark) (item : Read α) : Read (List α) :=
  many do
    if ← eat closing then return none
    return some (← item)

/-- Reads items that are separated by commas up to a closing mark, which is stepped over. A comma
may stand before the closing mark, and its place is told. -/
def commaListAndEnd {α : Type} (closing : Mark) (item : Read α) : Read (List α × Option Place) := do
  let items ← manyUntil closing do
    let value ← item
    let comma ← place
    let found ← eat .comma
    unless found || (← at? closing) do fail
    return (value, if found then some comma else none)
  return (items.map (·.1), items.getLast?.bind (·.2))

/-- Reads items that are separated by commas up to a closing mark, which is stepped over. A comma
may stand before the closing mark. -/
def commaList {α : Type} (closing : Mark) (item : Read α) : Read (List α) :=
  return (← commaListAndEnd closing item).1

/-- Reads items that are separated by commas up to a closing mark, which is not stepped over. An
item tells where it begins if it is a rest item, which is the last and has no comma behind it. A
`hole` may stand in front of a comma. -/
def listWithRest {α : Type} (closing : Mark) (hole : Option α) (item : Read (α × Option Place)) :
    Read (List α) := do
  loop (← read).limit none
where
  loop : Nat → Option Place → Read (List α)
    | 0, _ => fail
    | limit + 1, earlier => do
        if ← at? closing then return []
        if let some hole := hole then
          if ← eat .comma then return hole :: (← loop limit earlier)
        noteAll earlier.toList
        let (value, rest) ← item
        if ← at? closing then return [value]
        let comma ← place
        unless ← eat .comma do fail
        noteIf (rest.isSome && (← at? closing)) comma
        return value :: (← loop limit (rest.or earlier))

/-- Extends a value as long as `extend` can. -/
def extendWhile {α : Type} (extend : α → Read (Option α)) (value : α) : Read α := do
  loop (← read).limit value
where
  loop : Nat → α → Read α
    | 0, _ => fail
    | limit + 1, value => do
        match ← extend value with
        | none => return value
        | some next => loop limit next

end Read

/-! ### Goals -/

/-- The rules that other rules refer to. -/
inductive Goal where
  | expression
  /-- An expression without a comma. -/
  | assignment
  /-- An operand with the signs before it. -/
  | unary
  /-- An operand without calls. -/
  | member
  | objectLiteral
  | type
  | binding
  /-- A statement; only in a list of statements may it be a declaration. -/
  | statement (inList : Bool)
  | item
  /-- A decorator from its `@` on. -/
  | decorator
  | block
  /-- A class from its keyword on. `abstract` tells whether it may leave members to other
  classes. -/
  | class (form : ClassForm) (named abstract : Bool) (decorators : List Tree)
  deriving Inhabited

/-- A reader for every goal. -/
abbrev Grammar := Goal → Read Tree

end RouteManifest.Script
