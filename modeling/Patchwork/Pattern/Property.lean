import Patchwork.Pattern.CharSet
import Patchwork.Pattern.Fault
import Patchwork.Text.Property

/-!
Named properties of characters as they are asked for in patterns. Names are compared in normal form: upper
case, without blanks, underscores and dashes.
-/

namespace Patchwork.Pattern.Property

open Patchwork.Text

def normal (name : List Char) : String :=
  String.ofList ((name.filter fun c => c != '_' && c != '-' && c != ' ').map Char.toUpper)

def cased : List String := ["Lu", "Ll", "Lt"]

/-- The general categories and their groups by name. -/
def categories : List (List String × List String) := [
  (["L", "LETTER"], ["Lu", "Ll", "Lt", "Lm", "Lo"]), (["LC", "CASEDLETTER", "L&"], cased),
  (["LU", "UPPERCASELETTER"], ["Lu"]), (["LL", "LOWERCASELETTER"], ["Ll"]),
  (["LT", "TITLECASELETTER"], ["Lt"]), (["LM", "MODIFIERLETTER"], ["Lm"]), (["LO", "OTHERLETTER"], ["Lo"]),
  (["M", "MARK", "COMBININGMARK"], ["Mn", "Mc", "Me"]), (["MN", "NONSPACINGMARK"], ["Mn"]),
  (["MC", "SPACINGMARK"], ["Mc"]), (["ME", "ENCLOSINGMARK"], ["Me"]),
  (["N", "NUMBER"], ["Nd", "Nl", "No"]), (["ND", "DECIMALNUMBER", "DIGIT"], ["Nd"]),
  (["NL", "LETTERNUMBER"], ["Nl"]), (["NO", "OTHERNUMBER"], ["No"]),
  (["P", "PUNCTUATION", "PUNCT"], ["Pc", "Pd", "Ps", "Pe", "Pi", "Pf", "Po"]),
  (["PC", "CONNECTORPUNCTUATION"], ["Pc"]), (["PD", "DASHPUNCTUATION"], ["Pd"]),
  (["PS", "OPENPUNCTUATION"], ["Ps"]), (["PE", "CLOSEPUNCTUATION"], ["Pe"]),
  (["PI", "INITIALPUNCTUATION"], ["Pi"]), (["PF", "FINALPUNCTUATION"], ["Pf"]),
  (["PO", "OTHERPUNCTUATION"], ["Po"]), (["S", "SYMBOL"], ["Sm", "Sc", "Sk", "So"]),
  (["SM", "MATHSYMBOL"], ["Sm"]), (["SC", "CURRENCYSYMBOL"], ["Sc"]), (["SK", "MODIFIERSYMBOL"], ["Sk"]),
  (["SO", "OTHERSYMBOL"], ["So"]), (["Z", "SEPARATOR"], ["Zs", "Zl", "Zp"]),
  (["ZS", "SPACESEPARATOR"], ["Zs"]), (["ZL", "LINESEPARATOR"], ["Zl"]),
  (["ZP", "PARAGRAPHSEPARATOR"], ["Zp"]), (["CC", "CONTROL", "CNTRL"], ["Cc"]), (["CF", "FORMAT"], ["Cf"]),
  (["CS", "SURROGATE"], ["Cs"]), (["CO", "PRIVATEUSE"], ["Co"])]

def assigned : CharSet :=
  .tables [rangesWhere fun _ => true]

def ofCategories (names : List String) : CharSet :=
  .tables [inCategories names]

def category? (name : String) : Option CharSet :=
  if name = "CN" ∨ name = "UNASSIGNED" then some (.complement assigned)
  else if name = "ASSIGNED" then some assigned
  else if name = "C" ∨ name = "OTHER" then
    some (.union (.complement assigned) (ofCategories ["Cc", "Cf", "Cs", "Co"]))
  else
    (categories.find? fun (names, _) => names.contains name).map fun (_, cats) => ofCategories cats

def script? (name : String) : Option CharSet :=
  (scriptNamed? name).map fun r => .tables [r]

def block? (name : String) : Option CharSet :=
  (blockNamed? name).map fun r => .tables [r]

def decimal : CharSet := ofCategories ["Nd"]

def alphabetic : CharSet := .tables [alphabeticRanges]

def hexDigits : CharSet :=
  .union (.range '0' '9') (.union (.range 'a' 'f') (.range 'A' 'F'))

/-- What starts an identifier, apart from its compatibility form. -/
def identStart : CharSet :=
  .diff (.union (ofCategories ["Lu", "Ll", "Lt", "Lm", "Lo", "Nl"])
    (.tables [.ofText "1885-1886 2118 212e 309b-309c"])) (.tables [.ofText "2e2f"])

def identPart : CharSet :=
  .union identStart (.union (ofCategories ["Mn", "Mc", "Nd", "Pc"])
    (.tables [.ofText "b7 387 1369-1371 19da 200c-200d 30fb ff65"]))

/-- Code points whose compatibility form does not start as an identifier does. -/
def brokenStart : CharSet :=
  .tables [.ofText "37a 309b-309c fc5e-fc63 fdfa-fdfb fe70-fe7e/2"]

/-- Properties that follow from others, and those of all systems' character classes. -/
def derived? (name : String) : Option CharSet :=
  match name with
  | "ANY" => some (.complement (.tables []))
  | "ASCII" => some (.range '\x00' '\x7f')
  | "ALNUM" => some (.union alphabetic decimal)
  | "BLANK" => some (.category .blank .newest)
  | "SPACE" => some (.category .space .newest)
  | "WORD" => some (.category .word .newest)
  | "GRAPH" => some graph
  | "PRINT" => some (.union graph (ofCategories ["Zs"]))
  | "XDIGIT" => some (.union decimal (.tables [propertyNamed "HEXDIGIT"]))
  | "POSIXALNUM" => some (.union alphabetic (.range '0' '9'))
  | "POSIXDIGIT" => some (.range '0' '9')
  | "POSIXPUNCT" =>
    some (.union punctuation (.inter (.range '\x00' '\x7f') (ofCategories ["Sm", "Sc", "Sk", "So"])))
  | "POSIXXDIGIT" => some hexDigits
  | "GRAPHEMEBASE" | "GRBASE" =>
    some (.diff (.diff assigned (ofCategories ["Cc", "Cf", "Cs", "Co", "Zl", "Zp"]))
      (.tables [propertyNamed "GRAPHEMEEXTEND"]))
  | "IDSTART" | "IDS" => some identStart
  | "IDCONTINUE" | "IDC" => some identPart
  | "XIDSTART" | "XIDS" => some (.diff identStart (.union brokenStart (.tables [.ofText "e33 eb3 ff9e-ff9f"])))
  | "XIDCONTINUE" | "XIDC" => some (.diff identPart brokenStart)
  | _ => none
where
  punctuation : CharSet := ofCategories ["Pc", "Pd", "Ps", "Pe", "Pi", "Pf", "Po"]
  graph : CharSet := .diff assigned (.union (.category .space .newest) (ofCategories ["Cc", "Cs"]))

/-- A property that characters have or lack, by name. -/
def binary? (name : String) : Option CharSet :=
  (derived? name).or ((propertyNamed? name).map fun r => .tables [r])

/-- What stands behind a mark at the start of a name. -/
def behind? (mark name : String) : Option String :=
  if mark.toList.isPrefixOf name.toList then some (String.ofList (name.toList.drop mark.length)) else none

/-- A lone name: a category, a script, a block, a property, or one of these with a word before it. -/
def named? (name : String) : Option CharSet :=
  ((category? name).or ((script? name).or ((block? name).or (binary? name)))).or
    (((behind? "IS" name).bind fun rest => (binary? rest).or (script? rest)).or
      ((behind? "IN" name).bind block?))

/-- Names that class brackets understand in a narrower sense. -/
def narrowed (name : String) : String :=
  if ["ALNUM", "DIGIT", "PUNCT", "XDIGIT"].contains name then "POSIX" ++ name else name

/-- A property with a value. -/
def valued? (property value : String) : Except Cause CharSet :=
  let found (s : Option CharSet) : Except Cause CharSet :=
    match s with
    | some s => .ok s
    | none => .error .unknownPropertyValue
  if ["GENERALCATEGORY", "GC"].contains property then found (category? value)
  else if ["SCRIPT", "SC", "SCRIPTEXTENSIONS", "SCX"].contains property then found (script? value)
  else if ["BLOCK", "BLK"].contains property then found (block? value)
  else
    match binary? property with
    | some s =>
      if ["YES", "Y", "TRUE", "T"].contains value then .ok s
      else if ["NO", "N", "FALSE", "F"].contains value then .ok (.complement s)
      else .error .unknownPropertyValue
    | none => .error .unknownProperty

/-- A property by its own name and its value's, either of which may be all there is. -/
def lookup (property : Option (List Char)) (value : List Char) (bracketed : Bool) : Except Cause CharSet :=
  match property with
  | some p => valued? (normal p) (normal value)
  | none =>
    let name := normal value
    match named? (if bracketed then narrowed name else name) with
    | some s => .ok s
    | none => .error .unknownProperty

/-- The property that holds up to case: of the letters' cases each stands for all. -/
def caseless (s : CharSet) : CharSet :=
  match s with
  | .complement t => .complement (widened t)
  | s => widened s
where
  widened (t : CharSet) : CharSet :=
    if (cased.map fun c => ofCategories [c]).contains t then ofCategories cased
    else if t = .tables [uppercaseRanges] ∨ t = .tables [lowercaseRanges] then .tables [casedRanges]
    else t

end Patchwork.Pattern.Property
