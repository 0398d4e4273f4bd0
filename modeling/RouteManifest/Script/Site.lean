import RouteManifest.Declaration
import RouteManifest.Script.Module

/-!
Where a script declares routes. Two shapes count: an exported variable of a fixed name, alone in its
declaration, and a call of a decorator of a fixed name on a class that is declared or exported by
default. `Tree.declarations` finds them at any depth.
-/

namespace RouteManifest.Script

def exportedName : String := "ROUTABLE_TARGETS"

def decoratorName : String := "Routable"

namespace Tree

mutual

/-- The value of an expression as far as it can declare patterns. Parentheses and marks that only
types see make no difference, type arguments apart. -/
def declared : Tree → Declared
  | .located _ inner => declared inner
  | .text (some value) => .literal value
  | .regex source flags => .regex source flags
  | .array elements _ => .array (declaredElements elements)
  | .object members _ => .object (declaredMembers members)
  | .parens inner => declared inner
  | .marked mark inner _ => if mark = .instantiated then .other else declared inner
  | _ => .other

/-- The elements of an array. Holes are left out, and a spread element can be anything. -/
def declaredElements : List Tree → List Declared
  | [] => []
  | .hole :: rest => declaredElements rest
  | element :: rest => declared element :: declaredElements rest

/-- The members of an object whose keys are identifiers. A member whose value goes by the same name
as its key can be anything. -/
def declaredMembers : List Tree → List (String × Declared)
  | [] => []
  | .located _ (.property (.name key) value) :: rest =>
      (key, declared value) :: declaredMembers rest
  | .located _ (.shorthand key) :: rest => (key, .other) :: declaredMembers rest
  | _ :: rest => declaredMembers rest

end

def namedExport? (line : Nat) : Tree → Option Declaration
  | .variableList [.declarator (.name word) _ value] =>
      if word = exportedName then some ⟨.namedExport, line, (value.map declared).getD .other⟩
      else none
  | _ => none

/-- The declaration that a decorator is. Its value is the first argument. -/
def routable? : Tree → Option Declaration
  | .decorator line (.call (.name word) values) =>
      if word = decoratorName then some ⟨.decorator, line, (values.head?.map declared).getD .other⟩
      else none
  | _ => none

def decoratorDeclarations : ClassForm → List Tree → List Declaration
  | .declaration, decorators => decorators.filterMap routable?
  | .expression, _ => []

/-- The class of a default export is not visited as a declaration, so its decorators count here. -/
def defaultDeclarations : Tree → List Declaration
  | .class .expression decorators _ _ => decoratorDeclarations .declaration decorators
  | _ => []

mutual

/-- The declarations in a script, in the order in which its parts are visited: a declaration before
those inside it, and those of the decorators of a class before those of its members. -/
def declarations : Tree → List Declaration
  | .name _ | .text _ | .regex _ _ | .hole | .shorthand _ => []
  | .located _ inner => declarations inner
  | .array elements _ => declarationsOf elements
  | .spread value => declarations value
  | .object members _ => declarationsOf members
  | .property key value => declarations key ++ declarations value
  | .method parts => declarationsOf parts
  | .defaulted target value => declarations target ++ declarations value
  | .parens inner => declarations inner
  | .marked _ inner type => declarations inner ++ declarations type
  | .assertion type inner => declarations inner ++ declarations type
  | .call callee values => declarations callee ++ declarationsOf values
  | .member _ owner key => declarations owner ++ declarations key
  | .assign target value => declarations target ++ declarations value
  | .arrow parts result => declarationsOf parts ++ declarations result
  | .operation _ operands => declarationsOf operands
  | .decorator _ expression => declarations expression
  | .class form decorators members heritage =>
      decoratorDeclarations form decorators ++ declarationsOf decorators ++
        declarationsOf members ++
        declarations heritage
  | .exported line declaration => (namedExport? line declaration).toList ++ declarations declaration
  | .defaultExport declaration => defaultDeclarations declaration ++ declarations declaration
  | .variableList declarators => declarationsOf declarators
  | .declarator target type value =>
      declarations target ++ declarations type ++
        match value with
        | some value => declarations value
        | none => []
  | .group children => declarationsOf children

def declarationsOf : List Tree → List Declaration
  | [] => []
  | tree :: rest => declarations tree ++ declarationsOf rest

end

end Tree

/-- The declarations in the text of a script, or the line of what is wrong with it. -/
def declarations (text : String) : Except Nat (List Declaration) :=
  (parse text).map Tree.declarations

end RouteManifest.Script
