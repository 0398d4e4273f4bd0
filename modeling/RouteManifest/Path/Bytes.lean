import RouteManifest.Path

/-!
Paths as the file system has them. A name there may be any bytes but slashes, while a path in a
manifest is text. Bytes that are no text are replaced in it, and then the name cannot be told from
other names. Between paths that are text there is no difference to `Path.route`.
-/

namespace RouteManifest

/-- A path in bytes, which need not be the bytes of a text. -/
structure BytePath where
  bytes : List UInt8
  deriving DecidableEq, Inhabited

namespace BytePath

/-! ### Bytes as characters -/

/-- Bytes, each of them as the character that has its number. -/
def spell (bytes : List UInt8) : String :=
  String.ofList (bytes.map fun byte => Char.ofNat byte.toNat)

/-- The bytes that a text spells. -/
def bytesOf (text : String) : List UInt8 := text.toList.map fun c => UInt8.ofNat c.toNat

/-- The path with its bytes as characters. Slashes and dots are single bytes, so the segments are
the same. -/
def written (path : BytePath) : Path := ⟨spell path.bytes⟩

def isAbsolute (path : BytePath) : Bool := path.written.isAbsolute

def join (base rest : BytePath) : BytePath := ⟨bytesOf (base.written.join rest.written.text).text⟩

/-! ### Bytes as text -/

def encode (text : String) : List UInt8 := text.toList.flatMap String.utf8EncodeChar

def ofText (text : String) : BytePath := ⟨encode text⟩

/-- What bytes are replaced with that are no text. -/
def replacement : Char := '\uFFFD'

def isContinuation (byte : UInt8) : Bool := 0x80 ≤ byte && byte ≤ 0xBF

/-- Whether a byte can follow the first one of a character. Some first bytes leave less room, so
that no character has two encodings and none is a surrogate or out of range. -/
def isSecond (first second : UInt8) : Bool :=
  if first = 0xE0 then 0xA0 ≤ second && second ≤ 0xBF
  else if first = 0xED then 0x80 ≤ second && second ≤ 0x9F
  else if first = 0xF0 then 0x90 ≤ second && second ≤ 0xBF
  else if first = 0xF4 then 0x80 ≤ second && second ≤ 0x8F
  else isContinuation second

/-- How many bytes after the first one of a broken character go with it: those that a whole
character could begin with as well. -/
def brokenTail (first : UInt8) : List UInt8 → Nat
  | [] => 0
  | second :: rest =>
      if 0xE0 ≤ first && first ≤ 0xF4 && isSecond first second then
        match rest with
        | third :: _ => if 0xF0 ≤ first && isContinuation third then 2 else 1
        | [] => 1
      else 0

/-- The characters of bytes, the first few of which belong to the character before. -/
def decodeFrom : Nat → List UInt8 → List Char
  | _, [] => []
  | skipped + 1, _ :: rest => decodeFrom skipped rest
  | 0, first :: rest =>
      match (first :: rest).toByteArray.utf8DecodeChar? 0 with
      | some c => c :: decodeFrom (c.utf8Size - 1) rest
      | none => replacement :: decodeFrom (brokenTail first rest) rest

/-- Bytes as a text, with a replacement for each broken character. -/
def decode (bytes : List UInt8) : String := String.ofList (decodeFrom 0 bytes)

/-! ### Paths in a manifest -/

/-- The path under which a manifest refers to `file`: `/` and the steps from `root` to it, as
text. -/
def route (root file : BytePath) : String :=
  "/" ++ String.intercalate "/"
    ((Path.stepsBetween (Path.resolve root.written.segments)
      (Path.resolve file.written.segments)).map fun step => decode (bytesOf step))

end BytePath

end RouteManifest
