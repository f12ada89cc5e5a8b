import Patchwork.Number.FloatText
import Patchwork.Number.Integer

/-!
Points in time on the calendar, and their text by date formats.
-/

namespace Patchwork.Log

/-- A day and a time of the Gregorian calendar. -/
structure Moment where
  year : Int
  month : Nat
  day : Nat
  hour : Nat
  minute : Nat
  second : Nat
  /-- Days since Sunday. -/
  weekday : Nat
  /-- Days since the first of January. -/
  yearDay : Nat
  seconds : Int
  deriving DecidableEq

def isLeap (year : Int) : Bool :=
  year % 4 = 0 && (year % 100 ≠ 0 || year % 400 = 0)

/-- Days of the year before a month. -/
def daysBefore (year : Int) (month : Nat) : Nat :=
  let lengths := [31, if isLeap year then 29 else 28, 31, 30, 31, 30, 31, 31, 30, 31, 30, 31]
  (lengths.take (month - 1)).foldl (· + ·) 0

/-- Year, month and day by the number of days since the first of January 1970. -/
def civil (days : Int) : Int × Nat × Nat :=
  let z := days + 719468
  let era := z / 146097
  let ofEra := (z % 146097).toNat
  let yearOfEra := (ofEra - ofEra / 1460 + ofEra / 36524 - ofEra / 146096) / 365
  let dayOfYear := ofEra - (365 * yearOfEra + yearOfEra / 4 - yearOfEra / 100)
  let shifted := (5 * dayOfYear + 2) / 153
  let day := dayOfYear - (153 * shifted + 2) / 5 + 1
  let month := if shifted < 10 then shifted + 3 else shifted - 9
  let year := Int.ofNat yearOfEra + era * 400 + (if month ≤ 2 then 1 else 0)
  (year, month, day)

/-- The moment so many seconds after the start of 1970. -/
def Moment.ofSeconds (seconds : Int) : Moment :=
  let days := seconds / 86400
  let rest := (seconds % 86400).toNat
  let (year, month, day) := civil days
  ⟨year, month, day, rest / 3600, rest / 60 % 60, rest % 60, ((days + 4) % 7).toNat,
    daysBefore year month + day - 1, seconds⟩

/-- Why a number of seconds is no moment. -/
inductive MomentFault where
  | notNumber
  | tooFar
  | yearTooLarge
  deriving DecidableEq

def MomentFault.message : MomentFault → String
  | notNumber => "Invalid value NaN (not a number)"
  | tooFar => "timestamp out of range for platform time_t"
  | yearTooLarge => "[Errno 75] Value too large for defined data type"

/-- The moment so many seconds after the start of 1970, without their fraction. -/
def Moment.ofDouble (x : Number.Binary64) : Except MomentFault Moment :=
  match x.magnitude with
  | .nan => .error .notNumber
  | .infinite => .error .tooFar
  | .finite m e =>
    let (n, d) := Number.Binary64.fraction m e
    let seconds : Int := if x.isNegative then -Int.ofNat ((n + d - 1) / d) else Int.ofNat (n / d)
    if seconds < -(Int.pow 2 63) ∨ Int.pow 2 63 ≤ seconds then .error .tooFar
    else
      let moment := Moment.ofSeconds seconds
      if moment.year - 1900 < -(Int.pow 2 31) ∨ Int.pow 2 31 ≤ moment.year - 1900 then .error .yearTooLarge else .ok moment

/-- A number filled up to a width. -/
def filled (fill : Char) (width : Nat) (n : Int) : String :=
  let ds := Nat.toDigits 10 n.natAbs
  let ds := List.replicate (width - ds.length) fill ++ ds
  String.ofList (if n < 0 then '-' :: ds else ds)

def dayNames : List String :=
  ["Sunday", "Monday", "Tuesday", "Wednesday", "Thursday", "Friday", "Saturday"]

def monthNames : List String :=
  ["January", "February", "March", "April", "May", "June", "July", "August", "September", "October",
    "November", "December"]

def nameOf (names : List String) (n : Nat) : String :=
  names.getD n ""

def short (name : String) : String :=
  String.ofList (name.toList.take 3)

namespace Moment

/-- Weeks of the year that begin on a given day of the week. -/
def weekFrom (m : Moment) (start : Nat) : Nat :=
  (m.yearDay + 7 - (m.weekday + 7 - start) % 7) / 7

def hour12 (m : Moment) : Nat :=
  if m.hour % 12 = 0 then 12 else m.hour % 12

/-- The half of the day. -/
def half (m : Moment) : String :=
  if m.hour < 12 then "AM" else "PM"

/-- The year and the week by the rule that a week belongs to the year of its Thursday. -/
def isoWeek (m : Moment) : Int × Nat :=
  let fromMonday := (m.weekday + 6) % 7
  let thursday := Int.ofNat m.yearDay - Int.ofNat fromMonday + 3
  if thursday < 0 then
    let length : Int := if isLeap (m.year - 1) then 366 else 365
    (m.year - 1, ((thursday + length) / 7).toNat + 1)
  else
    let length : Int := if isLeap m.year then 366 else 365
    if length ≤ thursday then (m.year + 1, 1) else (m.year, (thursday / 7).toNat + 1)

/-- How a directive is written. -/
structure Directive where
  /-- The character that fills up, if it is given: `_`, `-` for none, or `0`. -/
  pad : Option Char
  upper : Bool
  /-- Whether the case is changed to the less usual one. -/
  swap : Bool
  width : Nat
  /-- A demand for other eras or digits, which change nothing here. -/
  modifier : Option Char

namespace Directive

def plain : Directive := ⟨none, false, false, 0, none⟩

/-- Text filled up to the width from the left. -/
def fill (d : Directive) (text : List Char) : List Char :=
  List.replicate (d.width - text.length) (if d.pad == some '0' then '0' else ' ') ++ text

/-- A word, in the case that is asked for. -/
def word (d : Directive) (lower : Bool) (text : List Char) : List Char :=
  d.fill (if lower then text.map Char.toLower else if d.upper then text.map Char.toUpper else text)

/-- A name; its less usual case is the upper one. -/
def name (d : Directive) (text : String) : List Char :=
  { d with upper := d.upper || d.swap }.word false text.toList

/-- A number with at least so many digits; `blanks` says that it is usually filled up with blanks. -/
def number (d : Directive) (blanks : Bool) (digits : Nat) (n : Int) : List Char :=
  let pad := if blanks && d.pad != some '0' && d.pad != some '-' then some '_' else d.pad
  let body := Nat.toDigits 10 n.natAbs
  let sign := if n < 0 then ['-'] else []
  let missing := max digits d.width - (sign.length + body.length)
  if pad == some '-' then d.fill (sign ++ body)
  else if pad == some '_' then List.replicate missing ' ' ++ sign ++ body
  else sign ++ List.replicate missing '0' ++ body

/-- The flags at the head of a directive. -/
def flags (d : Directive) : List Char → Directive × List Char
  | c :: r =>
    if c == '_' || c == '-' || c == '0' then { d with pad := some c }.flags r
    else if c == '^' then { d with upper := true }.flags r
    else if c == '#' then { d with swap := true }.flags r
    else (d, c :: r)
  | [] => (d, [])

/-- The flags, the width and the modifier behind a percent sign, and the rest. -/
def read (s : List Char) : Directive × List Char :=
  let (d, s) := plain.flags s
  let digits := s.takeWhile Char.isDigit
  let d := { d with width := (Number.natOf? digits).getD 0 }
  match s.drop digits.length with
  | c :: r => if c == 'E' || c == 'O' then ({ d with modifier := some c }, r) else (d, c :: r)
  | [] => (d, [])

end Directive

/-- The letters that no modifier may stand before, or not that one. -/
def isModifiable (modifier letter : Char) : Bool :=
  if modifier == 'E' then "cCxXyYnptPuRrTsZz%".toList.contains letter
  else !"cxXYaADF".toList.contains letter

/-- The formats that some letters are short for. -/
def longForm? : Char → Option String
  | 'c' => some "%a %b %e %H:%M:%S %Y"
  | 'D' | 'x' => some "%m/%d/%y"
  | 'F' => some "%Y-%m-%d"
  | 'r' => some "%I:%M:%S %p"
  | 'R' => some "%H:%M"
  | 'T' | 'X' => some "%H:%M:%S"
  | _ => none

/-- What a letter stands for that is not short for others. -/
def directive? (m : Moment) (d : Directive) (c : Char) : Option (List Char) :=
  let number := d.number false
  match c with
  | 'a' => some (d.name (short (nameOf dayNames m.weekday)))
  | 'A' => some (d.name (nameOf dayNames m.weekday))
  | 'b' | 'h' => some (d.name (short (nameOf monthNames (m.month - 1))))
  | 'B' => some (d.name (nameOf monthNames (m.month - 1)))
  | 'C' => some (number 1 (m.year / 100))
  | 'd' => some (number 2 m.day)
  | 'e' => some (d.number true 2 m.day)
  | 'g' => some (number 2 (m.isoWeek.1 % 100))
  | 'G' => some (number 1 m.isoWeek.1)
  | 'H' => some (number 2 m.hour)
  | 'I' => some (number 2 m.hour12)
  | 'j' => some (number 3 (m.yearDay + 1))
  | 'k' => some (d.number true 2 m.hour)
  | 'l' => some (d.number true 2 m.hour12)
  | 'm' => some (number 2 m.month)
  | 'M' => some (number 2 m.minute)
  | 'n' => some (d.fill ['\n'])
  | 'p' => some (d.word d.swap m.half.toList)
  | 'P' => some (d.word true m.half.toList)
  | 's' => some (d.fill (toString m.seconds).toList)
  | 'S' => some (number 2 m.second)
  | 't' => some (d.fill ['\t'])
  | 'u' => some (number 1 (if m.weekday = 0 then 7 else m.weekday))
  | 'U' => some (number 2 (m.weekFrom 0))
  | 'V' => some (number 2 m.isoWeek.2)
  | 'w' => some (number 1 m.weekday)
  | 'W' => some (number 2 (m.weekFrom 1))
  | 'y' => some (number 2 (m.year % 100))
  | 'Y' => some (number 1 m.year)
  | 'z' => some (d.fill ['+'] ++ number 4 0)
  | 'Z' => some (if d.pad == some '-' then "UTC".toList else d.fill "UTC".toList)
  | '%' => some (d.fill ['%'])
  | _ => none

/-- The text of a moment by a format in which a percent sign starts a directive; what is none stays. The fuel
bounds the number of directives, `depth` how often one is short for others. -/
def textFrom (m : Moment) : Nat → Nat → List Char → List Char
  | 0, _, s => s
  | _, 0, s => s
  | depth + 1, fuel + 1, s =>
    match s with
    | [] => []
    | '%' :: r =>
      let (d, q) := Directive.read r
      match q with
      | [] => d.word false s
      | c :: rest =>
        let allowed := (d.modifier.map fun e => isModifiable e c).getD true
        let written := match allowed, longForm? c with
          | false, _ => none
          | true, some long =>
            let text := textFrom m depth (long.length + 1) long.toList
            some (d.fill (if d.upper then text.map Char.toUpper else text))
          | true, none => m.directive? d c
        (match written with
          | some text => text
          | none => { d with upper := d.upper || (d.swap && "bh".toList.contains c) }.word false
              (s.take (s.length - rest.length))) ++ textFrom m (depth + 1) fuel rest
    | c :: r => c :: textFrom m (depth + 1) fuel r

/-- The text of a moment by a format. -/
def text (m : Moment) (format : List Char) : String :=
  String.ofList (m.textFrom 2 (format.length + 1) format)

end Moment

end Patchwork.Log
