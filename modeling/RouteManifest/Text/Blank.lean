import RouteManifest.Text.Ranges

/-!
White space in any script, by the property of the same name.
-/

namespace RouteManifest.Text

def blanks : Ranges := [
  (0x9, 0xd), (0x20, 0x20), (0x85, 0x85), (0xa0, 0xa0), (0x1680, 0x1680), (0x2000, 0x200a),
  (0x2028, 0x2029), (0x202f, 0x202f), (0x205f, 0x205f), (0x3000, 0x3000)]

def isBlank (text : String) : Bool := text.toList.all (blanks.contains ·)

end RouteManifest.Text
