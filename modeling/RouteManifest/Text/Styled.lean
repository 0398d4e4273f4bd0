/-!
Styled text: text for a terminal, in spans that may have a colour or a weight. Without colours only
the text of the spans is written.
-/

namespace RouteManifest.Text

inductive Colour where
  | red | green | yellow | blue | cyan
  deriving DecidableEq, Inhabited

def Colour.code : Colour → String
  | .red => "31"
  | .green => "32"
  | .yellow => "33"
  | .blue => "34"
  | .cyan => "36"

structure Style where
  bold : Bool := false
  dimmed : Bool := false
  colour : Option Colour := none
  deriving DecidableEq, Inhabited

structure Span where
  text : String
  style : Option Style := none
  deriving DecidableEq, Inhabited

abbrev Styled := List Span

namespace Style

/-- The codes of a style, weight first. -/
def codes (style : Style) : List String :=
  (if style.bold then ["1"] else []) ++ (if style.dimmed then ["2"] else []) ++
    (style.colour.map Colour.code).toList

def opening (style : Style) : List Char :=
  ['\x1b', '['] ++ (String.intercalate ";" style.codes).toList ++ ['m']

def reset : List Char := ['\x1b', '[', '0', 'm']

/-- Text that takes up a style again wherever the text itself switches it off. -/
def resume (opening : List Char) : List Char → List Char
  | '\x1b' :: '[' :: '0' :: 'm' :: rest => reset ++ opening ++ resume opening rest
  | c :: rest => c :: resume opening rest
  | [] => []

def apply (style : Style) (text : List Char) : List Char :=
  style.opening ++ resume style.opening text ++ reset

end Style

def Span.render (coloured : Bool) (span : Span) : List Char :=
  match coloured, span.style with
  | true, some style => style.apply span.text.toList
  | _, _ => span.text.toList

namespace Styled

def plain (text : String) : Styled := [⟨text, none⟩]

def styled (style : Style) (text : String) : Styled := [⟨text, some style⟩]

def inColour (colour : Colour) (text : String) : Styled := styled { colour := some colour } text

def inBold (colour : Colour) (text : String) : Styled :=
  styled { bold := true, colour := some colour } text

/-- The whole text as it is written. -/
def render (coloured : Bool) (spans : Styled) : String :=
  String.ofList (spans.flatMap (Span.render coloured))

theorem render_plain (coloured : Bool) (text : String) : render coloured (plain text) = text := by
  cases coloured <;> simp [render, plain, Span.render]

end Styled

end RouteManifest.Text
