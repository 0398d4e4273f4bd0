/-!
Match targets: what the patterns of a file are compared against.
-/

namespace RouteManifest

/-- What a router compares the patterns of a record against. -/
inductive MatchTarget where
  /-- The route's name. -/
  | name
  /-- The names from the outermost route down to the matched one. -/
  | nameChain
  /-- The route's path. -/
  | path
  deriving DecidableEq, Inhabited

namespace MatchTarget

def word : MatchTarget → String
  | .name => "name"
  | .nameChain => "name-chain"
  | .path => "path"

/-- Every target, in the order in which messages list them. -/
def all : List MatchTarget := [.name, .nameChain, .path]

/-- The target a word stands for; the spelling is exact. -/
def ofWord? (text : String) : Option MatchTarget := all.find? (·.word == text)

theorem ofWord?_word (target : MatchTarget) : ofWord? target.word = some target := by
  cases target <;> decide

end MatchTarget

end RouteManifest
