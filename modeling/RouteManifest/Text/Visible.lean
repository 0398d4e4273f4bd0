import RouteManifest.Text.Visible.Table

/-!
Text made visible: every character that would not show gets an escape. In an error message the text
stands between double quotes, with an escape for what would end them.
-/

namespace RouteManifest.Text

namespace Visible

/-- Whether a character shows nothing wherever it stands. -/
def isUnprintable (c : Char) : Bool :=
  if c.toNat < 127 then c.toNat < 32 else unprintable.contains c

/-- Whether a character would not show on its own. -/
def isHidden (c : Char) : Bool :=
  isUnprintable c || extending.contains c

/-- The escape that names a character by its code point. -/
def codePoint (c : Char) : List Char :=
  ['\\', 'u', '{'] ++ Nat.toDigits 16 c.toNat ++ ['}']

/-- One character between the quotes, where `hides` says which ones would not show. -/
def escapeWith (hides : Char → Bool) (c : Char) : List Char :=
  if c = '\x00' then ['\\', '0']
  else if c = '\t' then ['\\', 't']
  else if c = '\r' then ['\\', 'r']
  else if c = '\n' then ['\\', 'n']
  else if c = '"' then ['\\', '"']
  else if c = '\\' then ['\\', '\\']
  else if hides c then codePoint c
  else [c]

/-- The same with an escape for the apostrophe. -/
def escapeBoth (hides : Char → Bool) (c : Char) : List Char :=
  if c = '\'' then ['\\', '\''] else escapeWith hides c

end Visible

open Visible

def visible (text : String) : String :=
  "\"" ++ String.ofList (text.toList.flatMap (escapeWith isHidden)) ++ "\""

def visiblePath (text : String) : String :=
  "\"" ++ String.ofList (text.toList.flatMap (escapeBoth isHidden)) ++ "\""

/-- A text made visible with no quotes around it, where both kinds of quotes are escaped. A mark
after the first character stays, as it shows on the one before it. -/
def escaped (text : String) : String :=
  match text.toList with
  | [] => ""
  | first :: later =>
      String.ofList (escapeBoth isHidden first ++ later.flatMap (escapeBoth isUnprintable))

end RouteManifest.Text
