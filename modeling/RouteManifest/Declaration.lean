import RouteManifest.Diagnostic
import RouteManifest.MatchTarget
import RouteManifest.Pattern

/-!
Routable declarations. A declaration is found at a site, and its value is read as a tree of the few
expression shapes that can declare patterns. `Declared.patterns` turns such a tree into patterns; a
declaration counts as a whole or not at all.
-/

namespace RouteManifest

/-- The value of a declaration, reduced to the shapes that can declare patterns. -/
inductive Declared where
  | literal (text : String)
  /-- A regular-expression literal, as written. -/
  | regex (source flags : String)
  /-- An array literal without its holes. -/
  | array (elements : List Declared)
  /-- An object literal's plain `key: value` properties, in order and with repeated keys. -/
  | object (properties : List (String × Declared))
  /-- Any other expression. It declares nothing. -/
  | other
  deriving Inhabited

structure Declaration where
  kind : SiteKind
  line : Nat
  value : Declared
  deriving Inhabited

structure Contribution where
  patterns : List Pattern := []
  matchTarget : Option MatchTarget := none
  deriving DecidableEq, Inhabited

namespace Declared

/-- The value of the last property named `key`: a later property replaces an earlier one. -/
def property? (properties : List (String × Declared)) (key : String) : Option Declared :=
  (properties.reverse.find? (·.1 == key)).map (·.2)

/-- The target that an object configuration asks for. -/
def target? (properties : List (String × Declared)) : Except Malformation (Option MatchTarget) :=
  match property? properties "matchTarget" with
  | none => .ok none
  | some (.literal word) =>
      match MatchTarget.ofWord? word with
      | some target => .ok (some target)
      | none => .error (.unknownMatchTarget word)
  | some _ => .error .nonStringMatchTarget

theorem sizeOf_property?_lt {properties : List (String × Declared)} {key : String}
    {value : Declared}
    (h : property? properties key = some value) : sizeOf value < sizeOf properties := by
  simp only [property?, Option.map_eq_some_iff] at h
  obtain ⟨⟨name, found⟩, hfound, rfl⟩ := h
  have hmem := List.sizeOf_lt_of_mem (List.mem_reverse.1 (List.mem_of_find?_eq_some hfound))
  simp only [Prod.mk.sizeOf_spec] at hmem
  simp only
  omega

mutual

/-- Adds the patterns of a value to those already `found`, from left to right. An object
configuration is checked before its `match` value is read, and the first target that is complete
stays. -/
def collect (found : Contribution) : Declared → Except Malformation Contribution
  | .literal text => .ok { found with patterns := found.patterns ++ [.literal text] }
  | .regex source flags =>
      if RegexFlags.accepts flags then
        .ok { found with patterns := found.patterns ++ [.regex source flags] }
      else .error (.invalidRegexFlags flags)
  | .array elements => collectAll found elements
  | .object properties =>
      match _h : property? properties "match" with
      | none => .error .missingMatch
      | some value => do
          let target ← target? properties
          let inner ← collect found value
          return { inner with matchTarget := inner.matchTarget.or target }
  | .other => .ok found
termination_by value => sizeOf value
decreasing_by
  all_goals simp_wf
  have := sizeOf_property?_lt _h
  omega

def collectAll (found : Contribution) : List Declared → Except Malformation Contribution
  | [] => .ok found
  | value :: rest => do
      let next ← collect found value
      collectAll next rest
termination_by values => sizeOf values

end

/-- The patterns and the target that a declaration's value declares. -/
def contribution (value : Declared) : Except Malformation Contribution := collect {} value

end Declared

end RouteManifest
