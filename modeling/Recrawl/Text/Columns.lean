import Recrawl.Unicode.Emoji
import Recrawl.Unicode.Joining
import Recrawl.Unicode.Width

/-!
The number of columns that a text takes in a line. It is the sum of the columns of
its characters, except where several are drawn as one: pictures that are joined,
chosen by a selector or given a skin tone, and the ligatures of some scripts. A
text is measured from its end, because what a character takes depends on what
follows it.
-/
namespace Recrawl.Text

open Unicode

namespace Columns

/-- Letters and signs that combine with what stands in front of them. -/
inductive Ligature
  | alef
  | lamed
  | ya
  /-- The vowel that stands between the two letters of a Buginese ligature. -/
  | vowelBeforeYa
  | tifinagh
  /-- A Tifinagh letter with the sign that joins it to the one in front. -/
  | joinedTifinagh
  | lowTone
  | orkhonI
  | khmer
  | vowelE
  | vowelAi
  deriving DecidableEq, Repr

/-- What a text begins with, as far as the character in front of it is concerned. A joined picture,
keycap, flag or tag is one behind a zero-width joiner; only its parts are missing. -/
inductive Beginning
  | plain
  | lineFeed
  | tone
  | flagLetter
  | flagLetters
  | picture
  | joinedPicture
  | joinedKeycap
  | joinedFlagLetter
  | joinedFlagLetters (odd : Bool)
  | joinedTags
  | joinedTagLetters (count : Nat)
  | joinedTagDigits (count : Nat)
  | ligature (part : Ligature) (joined : Bool)
  deriving DecidableEq, Repr

/-- A mark that chooses the form of the character in front of it. -/
inductive Selector
  | none
  | text
  | picture
  | full
  deriving DecidableEq, Repr

/-- What follows a character. -/
structure Following where
  beginning : Beginning := .plain
  selector : Selector := .none
  deriving DecidableEq, Repr

def joiner : Char := Char.ofNat 0x200D

def inRange (low high : Nat) (c : Char) : Bool := low ≤ c.toNat && c.toNat ≤ high

/-- An Arabic letter that forms a ligature with an alef behind it. -/
def isLam (c : Char) : Bool :=
  c.toNat == 0x644 || inRange 0x6B5 0x6B8 c || c.toNat == 0x76A || c.toNat == 0x8A6 ||
    c.toNat == 0x8C7

/-- An Arabic letter that forms a ligature with a lam in front of it. -/
def isAlef (c : Char) : Bool :=
  [0x622, 0x623, 0x625, 0x627, 0x671, 0x672, 0x673, 0x675, 0x773, 0x774].contains c.toNat ||
    inRange 0x870 0x882 c

def isTifinagh (c : Char) : Bool := inRange 0x2D31 0x2D65 c || c.toNat == 0x2D6F

/-- A Khmer letter that is drawn below the one before it if a coeng stands between them. -/
def isKhmer (c : Char) : Bool :=
  inRange 0x1780 0x1782 c || inRange 0x1784 0x1787 c || inRange 0x1789 0x178C c ||
    inRange 0x178E 0x1793 c || inRange 0x1795 0x1798 c || inRange 0x179B 0x179D c ||
    inRange 0x17AB 0x17AC c || [0x17A0, 0x17A2, 0x17A7, 0x17AF].contains c.toNat

/-- A mark without a form of its own, which does not part the letters of a ligature. -/
def isUnseenMark (c : Char) : Bool :=
  c.toNat == 0x34F || inRange 0x17B4 0x17B5 c || inRange 0x180B 0x180D c || c.toNat == 0x180F ||
    inRange 0xFE00 0xFE0F c || inRange 0xE0100 0xE01EF c

def isQuotationMark (c : Char) : Bool :=
  [0x2018, 0x2019, 0x201C, 0x201D].contains c.toNat

/-- The columns of a character, and what it is to the one in front, if it does not combine with what
follows it. -/
def alone (c : Char) : Nat × Following :=
  let part (l : Ligature) : Following := { beginning := .ligature l false }
  if c.toNat == 0x5DC then (1, part .lamed)
  else if isAlef c then (1, part .alef)
  else if isKhmer c then (1, part .khmer)
  else if c.toNat == 0x1A10 then (1, part .ya)
  else if isTifinagh c then (1, part .tifinagh)
  else if inRange 0xA4FC 0xA4FD c then (1, part .lowTone)
  else if c.toNat == 0x10C03 then (1, part .orkhonI)
  else if c.toNat == 0x16D67 then (1, part .vowelE)
  else if c.toNat == 0x16D68 then (1, part .vowelAi)
  else if isFlagLetter c then (1, { beginning := .flagLetter })
  else if isTone c then (2, { beginning := .tone })
  else if isPicture c then (2, { beginning := .picture })
  else (columns c, {})

/-- The change of the columns by a character that forms a ligature with what follows it, and what
both are to the one in front; none if it forms no ligature. -/
def ligate? (part : Ligature) (joined : Bool) (c : Char) : Option (Int × Beginning) :=
  if part != .alef && c == joiner then some (0, .ligature part true)
  else if part != .alef && isUnseenMark c then some (0, .ligature part joined)
  else
    match part with
    | .alef =>
      if isLam c then some (0, .plain)
      else if columns c == 0 && joining c == .transparent then some (0, .ligature .alef false)
      else none
    | .lamed => if joined && c.toNat == 0x5D0 then some (0, .plain) else none
    | .khmer => if c.toNat == 0x17D2 then some (-1, .plain) else none
    | .ya =>
      if joined && c.toNat == 0x1A17 then some (0, .ligature .vowelBeforeYa true) else none
    | .vowelBeforeYa => if c.toNat == 0x1A15 then some (0, .plain) else none
    | .tifinagh =>
      if c.toNat == 0x2D7F then some (1, .ligature .joinedTifinagh true)
      else if joined && isTifinagh c then some (0, .plain)
      else none
    | .joinedTifinagh => if isTifinagh c then some (-1, .plain) else none
    | .lowTone => if inRange 0xA4F8 0xA4FB c then some (0, .plain) else none
    | .orkhonI => if joined && c.toNat == 0x10C32 then some (0, .plain) else none
    | .vowelE =>
      if joined then none
      else if c.toNat == 0x16D63 || c.toNat == 0x16D69 then some (0, .plain)
      else if c.toNat == 0x16D67 then some (0, .ligature .vowelAi false)
      else if c.toNat == 0x16D68 then some (1, .ligature .vowelE false)
      else none
    | .vowelAi => if !joined && c.toNat == 0x16D63 then some (0, .plain) else none

def isTagLetter (c : Char) : Bool := inRange 0xE0061 0xE007A c

def isTagDigit (c : Char) : Bool := inRange 0xE0030 0xE0039 c

/-- The flag that tags turn into that of a region. -/
def isBlackFlag (c : Char) : Bool := c.toNat == 0x1F3F4

/-- The change of the columns by a character in front of a joined picture. -/
def joinPicture? (c : Char) : Option (Int × Beginning) :=
  if c.toNat == 0x20E3 then some (0, .joinedKeycap)
  else if isFlagLetter c then some (1, .joinedFlagLetter)
  else if isTone c then some (0, .tone)
  else if c.toNat == 0xE007F then some (0, .joinedTags)
  else if isPicture c then some (0, .picture)
  else none

/-- The change of the columns by a character that combines with what follows it, and what both are
to the one in front; none if it does not combine. -/
def combine? (beginning : Beginning) (c : Char) : Option (Int × Beginning) :=
  match beginning with
  | .plain | .lineFeed | .joinedKeycap => none
  | .ligature part joined => ligate? part joined c
  | .tone =>
    if takesTone c then some (0, .picture)
    else if c == joiner then some (0, .joinedPicture)
    else none
  | .flagLetter => if isFlagLetter c then some (1, .flagLetters) else none
  | .flagLetters =>
    if isFlagLetter c then some (1, .flagLetters)
    else if c == joiner then some (0, .joinedPicture)
    else none
  | .picture => if c == joiner then some (0, .joinedPicture) else none
  | .joinedPicture => joinPicture? c
  | .joinedFlagLetter => if isFlagLetter c then some (-1, .joinedFlagLetters false) else none
  | .joinedFlagLetters odd =>
    if isFlagLetter c then some (if odd then -1 else 3, .joinedFlagLetters !odd)
    else if c == joiner then some (0, .joinedPicture)
    else none
  | .joinedTags =>
    if isTagLetter c then some (0, .joinedTagLetters 1)
    else if isTagDigit c then some (0, .joinedTagDigits 1)
    else none
  | .joinedTagLetters count =>
    if isTagLetter c && count < 6 then some (0, .joinedTagLetters (count + 1))
    else if isTagDigit c && count < 5 then some (0, .joinedTagDigits 1)
    else if isBlackFlag c && 3 ≤ count then some (0, .picture)
    else none
  | .joinedTagDigits count =>
    if isTagDigit c && count < 3 then some (0, .joinedTagDigits (count + 1))
    else if isBlackFlag c && count == 3 then some (0, .picture)
    else none

/-- A ligature forms across a selector. -/
def Beginning.spansSelector : Beginning → Bool
  | .ligature _ _ => true
  | _ => false

/-- A joined picture may have a selector in it. -/
def Beginning.holdsSelector : Beginning → Bool
  | .joinedPicture => true
  | .joinedKeycap => true
  | beginning => beginning.spansSelector

/-- What follows a character behind which `selector` stands in front of `following`. -/
def Following.select (following : Following) (selector : Selector) : Following :=
  let keeps :=
    if selector == .picture then following.beginning.holdsSelector
    else following.beginning.spansSelector
  ⟨if keeps then following.beginning else .plain, selector⟩

/-- What follows a character that does not heed the selector behind it. -/
def Following.unselect (following : Following) : Following :=
  if following.selector == .none then following
  else ⟨if following.beginning.spansSelector then following.beginning else .plain, .none⟩

def selectorOf (c : Char) : Selector :=
  if c.toNat == 0xFE0F then .picture
  else if c.toNat == 0xFE0E then .text
  else if c.toNat == 0xFE01 then .full
  else .none

/-- The change of the columns by a character in front of a text, and what both are to the one in
front. -/
def step (c : Char) (following : Following) : Int × Following :=
  if following.selector == .picture && hasTwoForms c then
    (if following.beginning.holdsSelector && !following.beginning.spansSelector then 0 else 2,
      { beginning := .picture })
  else if c.toNat ≤ 0xA0 then
    if c == '\n' then (1, { beginning := .lineFeed })
    else if c == '\r' && following.beginning == .lineFeed then (0, {})
    else (1, {})
  else if following.selector == .text && narrowsAsText c then (1, {})
  else if following.selector == .full && isQuotationMark c then (2, {})
  else
    let following := following.unselect
    match selectorOf c with
    | .none =>
      match combine? following.beginning c with
      | some (change, beginning) => (change, { beginning })
      | none => ((alone c).1, (alone c).2)
    | selector => (0, following.select selector)

end Columns

def columns (text : String) : Nat :=
  (text.toList.foldr (fun c (sum, following) =>
    let (change, following) := Columns.step c following
    (sum + change, following)) ((0 : Int), ({} : Columns.Following))).1.toNat

end Recrawl.Text
