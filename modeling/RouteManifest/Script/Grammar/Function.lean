import RouteManifest.Script.Grammar.Type

/-!
Functions: what follows their names, and the bodies of arrow functions.
-/

namespace RouteManifest.Script.Grammar

open Read

/-- The surroundings of the parameters and the body of a function that is not an arrow function. -/
def functionContext (async generator : Bool) (context : Context) : Context :=
  { context with inAsync := async, inGenerator := generator, inField := false }

def parameterContext (context : Context) : Context :=
  { context with inParameters := true, inFunction := false, hasNewTarget := true }

def bodyContext (context : Context) : Context :=
  { context with inFunction := true, breakable := false, continuable := false, labels := [] }

/-- The place of a directive that asks for strict rules. The first `count` statements of a text are
strings. -/
def strictDirective? : Nat → Place → Option Place
  | 0, _ => none
  | count + 1, text =>
      let directive := Lexeme.read false true text
      if ["'use strict'", "\"use strict\""].any (·.toList.isPrefixOf directive.start)
        then some directive.start
      else
        let next := Lexeme.read false true directive.rest
        strictDirective? count
          (if next.token == .mark .semicolon then next.rest else directive.rest)

/-- The statements of a body between braces. A directive that asks for strict rules is a fault
unless the parameters of the function are `simple`, that is, names without default values. -/
def bodyBlock (self : Grammar) (simple : Bool) : Read Tree := do
  let inside := (← get).current.rest
  let body ← self .block
  unless simple do
    if let .group statements := body then
      noteAll (strictDirective? (statements.takeWhile (·.isText)).length inside).toList
  return body

/-- The body of a function; `none` if a statement may end instead. Code from elsewhere has none.
`simple` tells whether all parameters are names without default values. -/
def functionBody? (self : Grammar) (simple : Bool) : Read (Option Tree) := do
  noteIf ((← read).ambient && (← at? .openBrace)) (← place)
  unless ← at? .openBrace do
    if ← eatEnd then return none
  inContext (fun context => { bodyContext context with hasNewTarget := true }) do
    return some (← allowingIn (bodyBlock self simple))

structure FunctionParts where
  parameters : List Parameter
  types : Tree
  result : Tree
  body : Option Tree

/-- The parts of a function as they are visited. Its decorators come between its parameters and its
body. -/
def FunctionParts.tree (parts : FunctionParts) (decorators : List Tree) : Tree :=
  .group (parts.parameters.map (·.tree) ++ decorators ++ parts.body.toList ++
    [parts.types, parts.result])

/-- Reads a function from its type parameters on; `check` looks at its parameters. The body may be
missing where a statement may end; the parameters then have no default values. -/
def functionParts (self : Grammar) (async generator : Bool) (check : List Parameter → Read Unit) :
    Read FunctionParts :=
  inContext (functionContext async generator) do
    let types ← typeParameters? self .functions
    expect .openParen
    let parameters ← inContext parameterContext do
      let parameters ← parameters self false
      check parameters
      return parameters
    expect .closeParen
    let result ← resultAnnotation self
    let body ← functionBody? self (parameters.all (·.isSimple))
    if body.isNone then noteAll ((parameters.filter (·.hasDefault)).map (·.start))
    return { parameters, types, result, body }

def function (self : Grammar) (async generator : Bool) (decorators : List Tree) : Read Tree :=
  return (← functionParts self async generator fun _ => return).tree decorators

/-- Notes what is wrong with the parameters of an accessor whose key begins at `start`. One that
reads has no parameter, and one that writes has one, which is no rest parameter. -/
def checkAccessor (reads : Bool) (start : Place) (parameters : List Parameter) : Read Unit := do
  let values := parameters.filter (!·.isReceiver)
  noteIf (values.length != if reads then 0 else 1) start
  unless reads do
    if let first :: _ := parameters then noteIf first.isRest first.start

/-- The body of an arrow function, and whether it stands between braces. `simple` tells whether all
parameters are names without default values. -/
def arrowBody (self : Grammar) (async simple : Bool) : Read (Tree × Bool) :=
  inContext (fun context => { bodyContext context with inAsync := async, inGenerator := false }) do
    unless ← at? .openBrace do return (← self .assignment, false)
    noteIf (← read).ambient (← place)
    return (← bodyBlock self simple, true)

end RouteManifest.Script.Grammar
