import RouteManifest.Script.Grammar.Item

/-!
Whole scripts. `Script.parse` reads a text as a module and gives its syntax tree, or the line of the
first thing that is wrong with it.
-/

namespace RouteManifest.Script

/-- Reads a goal whose rules are nested at most as deeply as the given number. -/
def grammar : Nat → Grammar
  | 0, _ => Read.fail
  | depth + 1, goal =>
      let self := grammar depth
      match goal with
      | .expression => Grammar.expression self
      | .assignment => Grammar.assignment self
      | .unary => Grammar.unary self
      | .member => Grammar.member self
      | .objectLiteral => Grammar.objectLiteral self
      | .type => Grammar.type self
      | .binding => Grammar.binding self
      | .statement inList => Grammar.statement self inList
      | .item => Grammar.item self
      | .decorator => Grammar.decorator self
      | .block => Grammar.block self
      | .class form named abstract decorators =>
          Grammar.classFrom self form named abstract decorators

def items (self : Grammar) : Read Tree :=
  Tree.group <$> Read.many do
    if (← Read.token) == .endOfText then return none
    return some (← self .item)

/-- A bound on how deeply the rules nest in a text. No token takes more than eight rules inside each
other. -/
def depthBound (text : List Char) : Nat := 8 * text.length + 64

/-- The text without a byte order mark and without a first line that names an interpreter. -/
def body (text : List Char) : Place :=
  let text := match text with
    | '\ufeff' :: rest => rest
    | text => text
  match text with
  | '#' :: '!' :: rest => dropLine rest
  | text => text

/-- The line to report for a place. The end of a text belongs to the line of its last character. -/
def blamedLine (text : List Char) (place : Place) : Nat :=
  if place.isEmpty then lastLine text else lineAt text place

/-- Reads a module. The error is the line of a fault: of the one that stopped the reading, or else
of the first that did not. -/
def parse (text : String) : Except Nat Tree :=
  let text := text.toList
  let context : Context := { text, limit := text.length + 1 }
  let first := Lexeme.read true false (body text)
  let start : State := { current := first, previous := first.start, fault := first.fault }
  let (result, state) := (items (grammar (depthBound text)) context).run start
  match result, state.fault with
  | .error place, _ | .ok _, some place => .error (blamedLine text place)
  | .ok tree, none => .ok tree

end RouteManifest.Script
