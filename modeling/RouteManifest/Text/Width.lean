import RouteManifest.Text.Width.Table

/-!
Display width: how many columns a text takes in a terminal. The columns of a text are those of its
characters, except where neighbours are shown as one: a carriage return with its line feed, the
pictures that are spelled with selectors, skin tones and joiners, and the ligatures of some scripts.
Such neighbours are told by what follows a character, so a text is measured from its end.
-/

namespace RouteManifest.Text

namespace Width

/-! ### What follows a character -/

/-- A mark that asks for a way to show the character before it. -/
inductive Selector where
  | text
  | picture
  | wide
  deriving DecidableEq, Inhabited

def selector? (c : Char) : Option Selector :=
  if c = '\ufe0e' then some .text
  else if c = '\ufe0f' then some .picture
  else if c = '\ufe01' then some .wide
  else none

/-- What follows a character, as far as it can be shown together with what stands before it. -/
inductive Follower where
  | other
  | lineFeed
  | tone
  /-- A letter of the two that spell a flag. -/
  | indicator
  | indicators
  | picture
  /-- A joiner before a picture. -/
  | joined
  /-- The frame of a key, joined to a picture. -/
  | joinedFrame
  | joinedIndicator
  /-- Two or more letters that spell flags, joined to a picture. -/
  | joinedIndicators (odd : Bool)
  /-- The end of the name that turns a plain flag into that of a region, joined to a picture. -/
  | joinedTags (letters digits : Nat)
  | alef
  | lamed (joined : Bool)
  /-- The Buginese letter ya. -/
  | ya (joined : Bool)
  /-- A vowel sign joined to the Buginese letter ya. -/
  | vowelAndYa
  | tifinagh (joined : Bool)
  | tifinaghJoiner
  /-- The second part of a Lisu tone. -/
  | lisuTone
  /-- The Old Turkic letter orkhon i. -/
  | orkhonI (joined : Bool)
  | khmerLetter
  /-- The Kirat Rai vowel sign e. -/
  | kiratE
  /-- The Kirat Rai vowel sign ai. -/
  | kiratAi
  deriving DecidableEq, Inhabited

namespace Follower

/-- Whether something takes part in a ligature of some script. Selectors before it do not hide
it. -/
def inLigature : Follower → Bool
  | .alef | .lamed _ | .ya _ | .vowelAndYa | .tifinagh _ | .tifinaghJoiner | .lisuTone
  | .orkhonI _ | .khmerLetter => true
  | _ => false

/-- Whether a selector leaves something visible to what stands before it. -/
def survives (follower : Follower) (selector : Selector) : Bool :=
  follower.inLigature || (selector == .picture && (follower == .joined || follower == .joinedFrame))

def join : Follower → Follower
  | .lamed _ => .lamed true
  | .ya _ => .ya true
  | .tifinagh _ => .tifinagh true
  | .orkhonI _ => .orkhonI true
  | follower => follower

end Follower

/-! ### Single characters -/

def within (first last : Nat) (c : Char) : Bool := first ≤ c.toNat && c.toNat ≤ last

def isTifinagh (c : Char) : Bool := within 0x2d31 0x2d65 c || c.toNat = 0x2d6f

/-- Whether a character is one of the letters that spell flags. -/
def isIndicator (c : Char) : Bool := within 0x1f1e6 0x1f1ff c

def isTone (c : Char) : Bool := within 0x1f3fb 0x1f3ff c

/-- Whether a character is a quotation mark that a selector can widen. -/
def isQuote (c : Char) : Bool := c = '\u2018' || c = '\u2019' || c = '\u201c' || c = '\u201d'

def isTextual (c : Char) : Bool :=
  pictures.contains c && selectable.contains c && !within 0x1f200 0x1f2ff c

/-- Whether a mark makes no difference to the ligatures around it. -/
def isPermeable (c : Char) : Bool :=
  c.toNat = 0x34f || within 0x17b4 0x17b5 c || within 0x180b 0x180d c || c.toNat = 0x180f ||
    within 0xfe00 0xfe0f c || within 0xe0100 0xe01ef c

/-- Whether a character between two Arabic letters lets them join. -/
def isTransparent (c : Char) : Bool := zero.contains c && !apart.contains c

def ofChar (c : Char) : Nat :=
  if c.toNat ≤ 0xa0 then 1
  else if zero.contains c then 0
  else if c.toNat = 0x17d8 then 3
  else if wide.contains c then 2
  else 1

def role (c : Char) : Follower :=
  if c = '\n' then .lineFeed
  else if isTone c then .tone
  else if isIndicator c then .indicator
  else if pictures.contains c then .picture
  else if alefs.contains c then .alef
  else if c.toNat = 0x5dc then .lamed false
  else if c.toNat = 0x1a10 then .ya false
  else if isTifinagh c then .tifinagh false
  else if within 0xa4fc 0xa4fd c then .lisuTone
  else if c.toNat = 0x10c03 then .orkhonI false
  else if khmerLetters.contains c then .khmerLetter
  else if c.toNat = 0x16d67 then .kiratE
  else if c.toNat = 0x16d68 then .kiratAi
  else .other

/-! ### Neighbours shown as one -/

def joiner : Char := '\u200d'

/-- A character before a picture with a joiner before it. -/
def beforeJoined (c : Char) : Option (Int × Follower) :=
  if c.toNat = 0x20e3 then some (0, .joinedFrame)
  else if isIndicator c then some (1, .joinedIndicator)
  else if isTone c then some (0, .tone)
  else if c.toNat = 0xe007f then some (0, .joinedTags 0 0)
  else if pictures.contains c then some (0, .picture)
  else none

/-- A character before the end of the name of a flag: at most six letters, or letters and three
digits. The name has at least two letters or three digits for the country and one more letter. -/
def beforeTags (letters digits : Nat) (c : Char) : Option (Int × Follower) :=
  if within 0xe0061 0xe007a c && digits = 0 && letters < 6
    then some (0, .joinedTags (letters + 1) 0)
  else if within 0xe0030 0xe0039 c && letters < 5 && digits < 3
    then some (0, .joinedTags letters (digits + 1))
  else if c.toNat = 0x1f3f4 && (digits = 3 || (digits = 0 && 3 ≤ letters)) then some (0, .picture)
  else none

/-- The columns that a character adds to what it is shown together with, and what both are for those
before them; `none` if it is not shown together with what follows. -/
def together? (c : Char) : Follower → Option (Int × Follower)
  | .lineFeed => if c = '\r' then some (0, .other) else none
  | .alef =>
      if lams.contains c then some (0, .other)
      else if isTransparent c then some (0, .alef)
      else none
  | .lamed true => if c.toNat = 0x5d0 then some (0, .other) else none
  | .khmerLetter => if c.toNat = 0x17d2 then some (-1, .other) else none
  | .ya true => if c.toNat = 0x1a17 then some (0, .vowelAndYa) else none
  | .vowelAndYa => if c.toNat = 0x1a15 then some (0, .other) else none
  | .tifinagh joined =>
      if c.toNat = 0x2d7f then some (1, .tifinaghJoiner)
      else if joined && isTifinagh c then some (0, .other)
      else none
  | .tifinaghJoiner => if isTifinagh c then some (-1, .other) else none
  | .lisuTone => if within 0xa4f8 0xa4fb c then some (0, .other) else none
  | .orkhonI true => if c.toNat = 0x10c32 then some (0, .other) else none
  | .kiratE =>
      if c.toNat = 0x16d63 || c.toNat = 0x16d69 then some (0, .other)
      else if c.toNat = 0x16d67 then some (0, .kiratAi)
      else if c.toNat = 0x16d68 then some (1, .kiratE)
      else none
  | .kiratAi => if c.toNat = 0x16d63 then some (0, .other) else none
  | .tone =>
      if tintable.contains c then some (0, .picture)
      else if c = joiner then some (0, .joined)
      else none
  | .picture => if c = joiner then some (0, .joined) else none
  | .indicator => if isIndicator c then some (1, .indicators) else none
  | .indicators =>
      if isIndicator c then some (1, .indicators)
      else if c = joiner then some (0, .joined)
      else none
  | .joined => beforeJoined c
  | .joinedIndicator => if isIndicator c then some (-1, .joinedIndicators false) else none
  | .joinedIndicators odd =>
      if isIndicator c then some (if odd then -1 else 3, .joinedIndicators !odd)
      else if c = joiner then some (0, .joined)
      else none
  | .joinedTags letters digits => beforeTags letters digits c
  | _ => none

/-- The columns that a character adds to those of what follows, and what is then the follower. -/
def beside (c : Char) (follower : Follower) : Int × Follower :=
  if follower.inLigature && follower != .alef && c = joiner then (0, follower.join)
  else if follower.inLigature && follower != .alef && isPermeable c then (0, follower)
  else (together? c follower).getD (ofChar c, role c)

/-! ### Texts -/

structure Measured where
  columns : Int := 0
  follower : Follower := .other
  selector : Option Selector := none

/-- What a character that has a selector behind it is measured as; `none` if the selector does not
apply to it. -/
def selected? (c : Char) (follower : Follower) : Selector → Option (Int × Follower)
  | .picture =>
      if selectable.contains c then
        some (if follower.inLigature || follower == .other then 2 else 0, .picture)
      else none
  | .text => if isTextual c then some (1, .other) else none
  | .wide => if isQuote c then some (2, .other) else none

def measure (c : Char) (rest : Measured) : Measured :=
  match rest.selector.bind (selected? c rest.follower) with
  | some (columns, follower) => ⟨rest.columns + columns, follower, none⟩
  | none =>
      let kept := rest.selector.isNone || rest.follower.inLigature
      let follower := if kept then rest.follower else .other
      match selector? c with
      | some selector =>
          ⟨rest.columns, if follower.survives selector then follower else .other, some selector⟩
      | none =>
          let (columns, follower) := beside c follower
          ⟨rest.columns + columns, follower, none⟩

end Width

/-- The columns that a text takes in a terminal. -/
def width (text : String) : Nat := (text.toList.foldr Width.measure {}).columns.toNat

end RouteManifest.Text
