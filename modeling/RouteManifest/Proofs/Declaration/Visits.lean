import Mathlib.Logic.Relation
import RouteManifest.Declaration

/-!
The values that count in a declaration. An array passes on to all of its elements, and an object
passes on to the value of its last `match` property alone; whatever else an object holds is never
looked at. The visited values are listed in two orders, which differ in whether a value comes before
or behind what it passes on to.
-/

namespace RouteManifest.Declared

/-! ### Properties -/

/-- The value belongs to the last property with this key. -/
def IsLast (properties : List (String × Declared)) (key : String) (value : Declared) : Prop :=
  ∃ before after, properties = before ++ (key, value) :: after ∧ ∀ other ∈ after, other.1 ≠ key

theorem property?_eq_some_iff {properties : List (String × Declared)} {key : String}
    {value : Declared} :
    property? properties key = some value ↔ IsLast properties key value := by
  rw [property?, Option.map_eq_some_iff]
  constructor
  · rintro ⟨⟨name, found⟩, hfound, rfl⟩
    obtain ⟨hname, after, before, hsplit, hafter⟩ := List.find?_eq_some_iff_append.1 hfound
    have hkey : name = key := eq_of_beq hname
    subst hkey
    refine ⟨before.reverse, after.reverse, ?_, ?_⟩
    · have hreverse := congrArg List.reverse hsplit
      simpa using hreverse
    · intro other hother
      have hne := hafter other (List.mem_reverse.1 hother)
      simpa using hne
  · rintro ⟨before, after, rfl, hafter⟩
    refine ⟨(key, value), ?_, rfl⟩
    rw [List.find?_eq_some_iff_append]
    refine ⟨beq_self_eq_true key, after.reverse, before.reverse, by simp, ?_⟩
    intro other hother
    have hne := hafter other (List.mem_reverse.1 hother)
    simpa using hne

theorem property?_eq_none_iff {properties : List (String × Declared)} {key : String} :
    property? properties key = none ↔ ∀ property ∈ properties, property.1 ≠ key := by
  simp [property?, List.find?_eq_none]

/-! ### Visits -/

/-- A value passes on to another one. -/
inductive Inspects : Declared → Declared → Prop
  | element {elements : List Declared} {value : Declared} (hvalue : value ∈ elements) :
      Inspects (.array elements) value
  | matchValue {properties : List (String × Declared)} {value : Declared}
      (hvalue : IsLast properties "match" value) :
      Inspects (.object properties) value

/-- A value is visited from the root on. -/
def Visits (root value : Declared) : Prop := Relation.ReflTransGen Inspects root value

/-- What a value passes on to, from left to right. -/
def inspected : Declared → List Declared
  | .array elements => elements
  | .object properties => (property? properties "match").toList
  | _ => []

theorem mem_inspected_iff {root value : Declared} :
    value ∈ inspected root ↔ Inspects root value := by
  constructor
  · intro h
    cases root with
    | array elements => exact .element h
    | object properties => exact .matchValue (property?_eq_some_iff.1 (Option.mem_toList.1 h))
    | literal => cases h
    | regex => cases h
    | other => cases h
  · intro h
    cases h with
    | element hvalue => exact hvalue
    | matchValue hvalue => exact Option.mem_toList.2 (property?_eq_some_iff.2 hvalue)

theorem sizeOf_lt_of_mem_inspected {root value : Declared} (h : value ∈ inspected root) :
    sizeOf value < sizeOf root := by
  cases root with
  | array elements =>
    have hmem : value ∈ elements := h
    have hlt := List.sizeOf_lt_of_mem hmem
    simp only [array.sizeOf_spec]
    omega
  | object properties =>
    have hlt := sizeOf_property?_lt (Option.mem_toList.1 h)
    simp only [object.sizeOf_spec]
    omega
  | literal => cases h
  | regex => cases h
  | other => cases h

/-- What holds of a value as soon as it holds of all that the value passes on to holds of every
value. -/
theorem induction_on_inspected {motive : Declared → Prop}
    (step : ∀ root, (∀ value ∈ inspected root, motive value) → motive root) (root : Declared) :
    motive root :=
  step root fun value _ => induction_on_inspected step value
termination_by sizeOf root
decreasing_by
  have hvalue : value ∈ inspected root := by assumption
  exact sizeOf_lt_of_mem_inspected hvalue

/-- The visited values, where `place` puts a value together with those behind it. -/
def order (place : Declared → List Declared → List Declared) (root : Declared) : List Declared :=
  place root ((inspected root).attach.flatMap fun value => order place value.1)
termination_by sizeOf root
decreasing_by exact sizeOf_lt_of_mem_inspected value.2

/-- The visited values, each of them before those that it passes on to. -/
def preorder (root : Declared) : List Declared := order (fun value inside => value :: inside) root

/-- The visited values, each of them behind those that it passes on to. -/
def postorder (root : Declared) : List Declared :=
  order (fun value inside => inside ++ [value]) root

theorem order_eq (place : Declared → List Declared → List Declared) (root : Declared) :
    order place root = place root ((inspected root).flatMap (order place)) := by
  rw [order, List.flatMap_subtype (fun _ _ => rfl), List.unattach_attach]

theorem preorder_eq (root : Declared) : preorder root = root :: (inspected root).flatMap preorder :=
  order_eq _ root

theorem postorder_eq (root : Declared) :
    postorder root = (inspected root).flatMap postorder ++ [root] :=
  order_eq _ root

theorem mem_order_iff {place : Declared → List Declared → List Declared}
    (hplace : ∀ value inside seen, seen ∈ place value inside ↔ seen = value ∨ seen ∈ inside)
    {root value : Declared} : value ∈ order place root ↔ Visits root value := by
  induction root using induction_on_inspected with
  | step root ih =>
    rw [order_eq, hplace, List.mem_flatMap, Visits, Relation.ReflTransGen.cases_head_iff]
    constructor
    · rintro (rfl | ⟨next, hnext, hvalue⟩)
      · exact .inl rfl
      · exact .inr ⟨next, mem_inspected_iff.1 hnext, (ih next hnext).1 hvalue⟩
    · rintro (rfl | ⟨next, hnext, hvalue⟩)
      · exact .inl rfl
      · have hmem := mem_inspected_iff.2 hnext
        exact .inr ⟨next, hmem, (ih next hmem).2 hvalue⟩

theorem mem_preorder_iff {root value : Declared} : value ∈ preorder root ↔ Visits root value :=
  mem_order_iff fun _ _ _ => List.mem_cons

theorem mem_postorder_iff {root value : Declared} : value ∈ postorder root ↔ Visits root value := by
  refine mem_order_iff fun value inside seen => ?_
  rw [List.mem_append, List.mem_singleton, or_comm]

end RouteManifest.Declared
