import RouteManifest.Script.Literal.Escape

/-!
String literals and the text parts of templates.
-/

namespace RouteManifest.Script

structure QuotedText where
  points : List Nat
  /-- The first octal escape. -/
  octal : Option Place
  /-- Whether its line or the text ends before its closing quote. -/
  unclosed : Bool
  rest : Place

def QuotedText.prepend (place : Place) (escape : Escape) (after : QuotedText) : QuotedText :=
  { after with
    points := escape.points ++ after.points
    octal := if escape.octal then some place else after.octal }

/-- Reads a string literal after its opening quote. Behind a backslash it goes on in the next line,
and else it ends with its line. The error is the place of an escape that means nothing. -/
def quotedText (quote : Char) (text : Place) : Except Place QuotedText :=
  match text with
  | [] => .ok ⟨[], none, true, []⟩
  | c :: rest =>
      if c = quote then .ok ⟨[], none, false, rest⟩
      else if c = '\n' ∨ c = '\r' then .ok ⟨[], none, true, text⟩
      else if c = '\\' then
        match _h : escape? rest with
        | none => .error text
        | some escape => (quotedText quote escape.rest).map (QuotedText.prepend text escape)
      else (quotedText quote rest).map fun after => { after with points := c.toNat :: after.points }
termination_by text.length
decreasing_by
  · have := length_lt_of_escape? _h
    simp only [List.length_cons]
    omega
  · simp

/-- The text of a string literal, if it can be told without halves of surrogate pairs. -/
def QuotedText.value? (literal : QuotedText) : Option String :=
  (joinHalves? literal.points).map String.ofList

/-- A part of a template between two substitutions. -/
structure TemplatePart where
  /-- Whether the template ends here. -/
  last : Bool
  /-- The first escape that only a tagged template may hold. -/
  fault : Option Place
  rest : Place

/-- Reads a template up to its next substitution or its end. A template that is never closed has no
part. -/
def templatePart? (fault : Option Place) (text : Place) : Option TemplatePart :=
  match text with
  | [] => none
  | '`' :: rest => some ⟨true, fault, rest⟩
  | '$' :: '{' :: rest => some ⟨false, fault, rest⟩
  | '\\' :: rest =>
      match _h : escape? rest with
      | some escape => templatePart? (if escape.octal then fault.or (some text) else fault)
          escape.rest
      | none => templatePart? (fault.or (some text)) rest
  | _ :: rest => templatePart? fault rest
termination_by text.length
decreasing_by
  · have := length_lt_of_escape? _h
    simp only [List.length_cons]
    omega
  · simp
  · simp

/-- Reads the body of a regular expression after its opening slash: up to the next slash that is
neither escaped nor in a character class. `inClass` tells whether a class is open. The line
separators beyond ASCII may occur in it. -/
def regexBody? (inClass : Bool) : Place → Option (List Char × Place)
  | [] => none
  | c :: rest =>
      if c = '\n' ∨ c = '\r' then none
      else if c = '/' ∧ !inClass then some ([], rest)
      else if c = '\\' then
        match rest with
        | [] => none
        | next :: after =>
            if next = '\n' ∨ next = '\r' then none
            else (regexBody? inClass after).map fun (body, rest) => (c :: next :: body, rest)
      else
        let inClass := if c = '[' then true else if c = ']' then false else inClass
        (regexBody? inClass rest).map fun (body, rest) => (c :: body, rest)

end RouteManifest.Script
