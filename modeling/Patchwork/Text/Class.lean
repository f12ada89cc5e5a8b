import Patchwork.Text.Category

/-!
Character classes by the earlier edition. ASCII is decided by arithmetic, the rest by table.
-/

namespace Patchwork.Text

/-- The White_Space property. -/
def isWhite (c : Char) : Bool :=
  let n := c.toNat
  (0x9 ≤ n && n ≤ 0xd) || n == 0x20 || n == 0x85 || n == 0xa0 || n == 0x1680 ||
    (0x2000 ≤ n && n ≤ 0x200a) || n == 0x2028 || n == 0x2029 || n == 0x202f || n == 0x205f ||
    n == 0x3000

/-- White space together with the four information separators. -/
def isBlank (c : Char) : Bool :=
  isWhite c || (0x1c ≤ c.toNat && c.toNat ≤ 0x1f)

/-- Letters of the earlier edition. -/
def isLetter (c : Char) : Bool :=
  if c.toNat < 0x80 then c.isAlpha else inEarlier letterRanges c.toNat

def isMark (c : Char) : Bool :=
  inEarlier markRanges c.toNat

/-- The value of a decimal digit of any script: how far it stands behind a zero. -/
def digitValue? (c : Char) : Option Nat :=
  if c.toNat < 0x80 then
    if c.isDigit then some (c.toNat - 0x30) else none
  else if isLater c.toNat then none
  else (digitRanges.find? c.toNat).map fun (first, _) => (c.toNat - first) % 10

def isDecimal (c : Char) : Bool :=
  (digitValue? c).isSome

/-- Digits that are raised, lowered or enclosed, or of a script whose numbers have no places. -/
def digitFormRanges : Ranges := .ofText "b2-b3 b9 1369-1371 19da 2070 2074-2079 2080-2089 2460-2468 2474-247c
  2488-2490 24ea 24f5-24fd 24ff 2776-277e 2780-2788 278a-2792 10a40-10a43 10e60-10e68 11052-1105a 1f100-1f10a"

def isDigitForm (c : Char) : Bool :=
  digitFormRanges.covers c.toNat

def isLetterNumber (c : Char) : Bool :=
  inEarlier letterNumberRanges c.toNat

def isNumber (c : Char) : Bool :=
  isDecimal c || isLetterNumber c || inEarlier otherNumberRanges c.toNat

/-- Letters and numbers. -/
def isAlphanumeric (c : Char) : Bool :=
  if c.toNat < 0x80 then c.isAlphanum else isLetter c || isNumber c

/-- Connector punctuation, the underscore among it. -/
def isConnector (c : Char) : Bool :=
  inEarlier connectorRanges c.toNat

def isAsciiWord (c : Char) : Bool :=
  c.toNat < 0x80 && (c.isAlphanum || c == '_')

/-- Letters whose compatibility form does not start with a letter. -/
def isBrokenStart (n : Nat) : Bool :=
  n == 0x37a || n == 0x2e2f || (0xfc5e ≤ n && n ≤ 0xfc63) || n == 0xfdfa || n == 0xfdfb ||
    (0xfe70 ≤ n && n ≤ 0xfe7e && n % 2 == 0)

/-- Characters that may start an identifier. -/
def isIdentStart (c : Char) : Bool :=
  let n := c.toNat
  if n < 0x80 then c.isAlpha || c == '_'
  else if n == 0x1885 || n == 0x1886 || n == 0x2118 || n == 0x212e then true
  else
    (isLetter c || isLetterNumber c) && !isBrokenStart n && n != 0xe33 && n != 0xeb3 &&
      n != 0xff9e && n != 0xff9f

/-- Characters that may continue an identifier. -/
def isIdentPart (c : Char) : Bool :=
  let n := c.toNat
  if n < 0x80 then c.isAlphanum || c == '_'
  else if n == 0xb7 || n == 0x387 || (0x1369 ≤ n && n ≤ 0x1371) || n == 0x19da || n == 0x2118 ||
      n == 0x212e then true
  else
    ((isLetter c || isLetterNumber c || isDecimal c || isConnector c) && !isBrokenStart n) ||
      (isMark c && !enclosingRanges.covers n)

/-- Characters with a printed form. -/
def isPrintable (c : Char) : Bool :=
  let n := c.toNat
  if n < 0x80 then 0x20 ≤ n && n != 0x7f else inEarlier visibleRanges n

end Patchwork.Text
