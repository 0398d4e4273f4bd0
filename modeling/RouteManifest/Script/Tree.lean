import RouteManifest.Script.Token

/-!
Syntax trees of scripts. Only what can carry or hide a routable declaration is told apart;
everything else is a group of its parts, in the order in which they are visited. Types are parts
too, because a type may name a computed key, and they never declare anything.

An array or object literal may turn out to be a pattern. `Tree.patternFaults` tells what is wrong
with it then.
-/

namespace RouteManifest.Script

inductive Operation where
  /-- A sign, `typeof`, `void` or `delete` before its operand. -/
  | unary
  | await
  /-- `++` or `--` -/
  | step
  /-- `||` or `&&` -/
  | logical
  /-- `??` -/
  | coalesce
  /-- Any other operator between two operands. -/
  | binary
  | conditional
  | update
  deriving DecidableEq, Inhabited

/-- Marks on an operand that only types see. -/
inductive TypeMark where
  /-- `as T` -/
  | cast
  /-- `as const` or `<const>` -/
  | constant
  /-- `satisfies T` -/
  | satisfied
  /-- `!` -/
  | nonNull
  /-- Type arguments that belong to no call. -/
  | instantiated
  deriving DecidableEq, Inhabited

inductive Link where
  | plain
  /-- After `?.`. -/
  | optional
  /-- In a chain that holds a `?.` further left. -/
  | continued
  deriving DecidableEq, Inhabited

inductive ClassForm where
  | declaration
  /-- In an expression, or right behind `export default`. -/
  | expression
  deriving DecidableEq, Inhabited

inductive Tree where
  | name (text : String)
  /-- A string literal; `none` if it has no text. -/
  | text (value : Option String)
  | regex (source flags : String)
  /-- A part together with the place where it begins. The elements of arrays, the members of objects
  and what they hold are located. -/
  | located (start : Place) (inner : Tree)
  /-- An array literal or pattern, and the comma behind its last element. -/
  | array (elements : List Tree) (comma : Option Place)
  | hole
  /-- `...value` -/
  | spread (value : Tree)
  /-- An object literal or pattern, and the comma behind its last member. -/
  | object (members : List Tree) (comma : Option Place)
  /-- `key: value`; the key is a `name` if it is an identifier. -/
  | property (key value : Tree)
  /-- An identifier that is both key and value. -/
  | shorthand (text : String)
  | method (parts : List Tree)
  /-- `target = value` as a member of an object pattern. -/
  | defaulted (target value : Tree)
  | parens (inner : Tree)
  | marked (mark : TypeMark) (inner type : Tree)
  /-- `<T>inner` -/
  | assertion (type inner : Tree)
  /-- A call without `?.`. -/
  | call (callee : Tree) (arguments : List Tree)
  /-- A member, or a call after `?.`. -/
  | member (link : Link) (object key : Tree)
  /-- `target = value` -/
  | assign (target value : Tree)
  /-- An arrow function, the type of its result apart. -/
  | arrow (parts : List Tree) (result : Tree)
  | operation (kind : Operation) (operands : List Tree)
  | decorator (line : Nat) (expression : Tree)
  /-- A class. What it extends is visited after its members. -/
  | class (form : ClassForm) (decorators members : List Tree) (heritage : Tree)
  /-- An exported declaration and the line of its `export`. -/
  | exported (line : Nat) (declaration : Tree)
  /-- A class, function or interface that is exported by default. -/
  | defaultExport (declaration : Tree)
  | variableList (declarators : List Tree)
  /-- A declared variable with its type and value. -/
  | declarator (target type : Tree) (value : Option Tree)
  /-- Anything else. -/
  | group (children : List Tree)
  deriving Inhabited

def Tree.nothing : Tree := .group []

inductive PatternUse where
  | target
  | binding
  deriving DecidableEq

/-- Something that is wrong with an expression as a pattern. -/
structure PatternFault where
  place : Place
  /-- Whether reading cannot go on. -/
  stops : Bool

namespace Tree

def bare : Tree → Tree
  | .located _ inner => bare inner
  | tree => tree

def isName : Tree → Bool
  | .name _ => true
  | _ => false

def isText : Tree → Bool
  | .text _ => true
  | _ => false

/-- Whether an expression assigns, which gives a pattern a default value. -/
def isAssignment : Tree → Bool
  | .assign _ _ => true
  | _ => false

/-- Whether an operator such as `+=` may assign to an expression. -/
def isSimpleTarget : Tree → Bool
  | .name word => !isFixed word
  | .member link _ _ => link == .plain
  | .parens inner => isSimpleTarget inner
  | .marked mark inner _ => mark != .constant && isSimpleTarget inner
  | .assertion _ inner => isSimpleTarget inner
  | _ => false

/-- Whether what follows an expression belongs to a chain of members and calls that holds a `?.`. -/
def continuesChain : Tree → Bool
  | .member link _ _ => link != .plain
  | .call callee _ => continuesChain callee
  | .marked .nonNull inner _ => continuesChain inner
  | _ => false

/-- Whether an expression ends with a member or a call of a chain that holds a `?.`. -/
def isOptionalChain : Tree → Bool
  | .marked _ _ _ => false
  | tree => tree.continuesChain

/-- Whether an expression has the shape of something that can be assigned to, be it right or
wrong. -/
def looksAssignable : Tree → Bool
  | .name _ | .member _ _ _ | .parens _ | .assertion _ _ => true
  | .call callee _ => callee.continuesChain
  | .marked mark _ _ => mark != .constant
  | _ => false

def isLiteralPattern : Tree → Bool
  | .array _ _ | .object _ _ => true
  | _ => false

/-- A fault after which reading goes on. -/
def noted (place : Place) : PatternFault := ⟨place, false⟩

mutual

/-- What is wrong with an expression that begins at `start` and is read as a pattern. The target of
a nested assignment has been looked at before if it is an array or object. -/
def patternFaults (use : PatternUse) (start : Place) : Tree → List PatternFault
  | .located start inner => patternFaults use start inner
  | .array elements comma => elementFaults use comma elements
  | .object members comma => memberFaults use comma members
  | .assign (.array _ _) _ | .assign (.object _ _) _ => []
  | .assign target _ => patternFaults use start target
  | .name word => if use = .target ∧ isFixed word then [noted start] else []
  | tree => if use = .target ∧ isSimpleTarget tree then [] else [noted start]

/-- What is wrong with the elements of an array as those of a pattern. A spread element comes last,
without a default and without a comma behind it. -/
def elementFaults (use : PatternUse) (comma : Option Place) : List Tree → List PatternFault
  | [] => []
  | [.located start (.spread value)] =>
      (if (bare value).isAssignment then [noted start] else []) ++ (comma.map noted).toList ++
        patternFaults use start value
  | .located _ (.spread (.located start _)) :: rest => noted start :: elementFaults use comma rest
  | .hole :: rest => elementFaults use comma rest
  | element :: rest => patternFaults use [] element ++ elementFaults use comma rest

/-- What is wrong with the members of an object as those of a pattern. A spread member comes last,
without a default and without a comma behind it, and is a name if it is declared. -/
def memberFaults (use : PatternUse) (comma : Option Place) : List Tree → List PatternFault
  | [] => []
  | .located start (.spread value) :: rest =>
      (if rest.isEmpty then (comma.map noted).toList else [noted start]) ++
        (match use with
          | .binding => if (bare value).isName then [] else [noted start]
          | .target =>
              patternFaults .target start value ++
                if (bare value).isAssignment then [noted start] else []) ++
        memberFaults use comma rest
  | .located start (.property _ value) :: rest =>
      patternFaults use start value ++ memberFaults use comma rest
  | .located _ (.shorthand _) :: rest | .located _ (.defaulted _ _) :: rest =>
      memberFaults use comma rest
  | .located start _ :: _ => [⟨start, true⟩]
  | _ :: rest => memberFaults use comma rest

end

mutual

/-- Where a pattern that begins at `start` declares a name that always means the same. -/
def fixedNames (start : Place) : Tree → List Place
  | .located start inner => fixedNames start inner
  | .name word | .shorthand word => if isFixed word then [start] else []
  | .array parts _ | .object parts _ => fixedNamesOf start parts
  | .spread value | .property _ value => fixedNames start value
  | .defaulted target _ | .assign target _ | .declarator target _ _ => fixedNames start target
  | _ => []

def fixedNamesOf (start : Place) : List Tree → List Place
  | [] => []
  | tree :: rest => fixedNames start tree ++ fixedNamesOf start rest

end

/-- The places of the members of an object literal that only a pattern may hold. -/
def defaultedMembers : Tree → List Place
  | .object members _ => members.filterMap fun
      | .located start (.defaulted _ _) => some start
      | _ => none
  | _ => []

end Tree

end RouteManifest.Script
