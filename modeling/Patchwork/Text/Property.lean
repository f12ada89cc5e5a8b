import Patchwork.Text.Category
import Patchwork.Text.PropertyTable
import Patchwork.Text.ScriptTable
import Patchwork.Text.BlockTable

/-!
Properties, scripts and blocks of code points, by the newest edition.
-/

namespace Patchwork.Text

/-- The code points with a property, by its name in normal form. -/
def propertyNamed? (name : String) : Option Ranges :=
  (propertyRanges.find? fun (names, _) => names.contains name).map (·.2)

def propertyNamed (name : String) : Ranges :=
  (propertyNamed? name).getD #[]

def alphabeticRanges : Ranges := propertyNamed "ALPHABETIC"

def lowercaseRanges : Ranges := propertyNamed "LOWERCASE"

def uppercaseRanges : Ranges := propertyNamed "UPPERCASE"

def casedRanges : Ranges := propertyNamed "CASED"

def caseIgnorableRanges : Ranges := propertyNamed "CASEIGNORABLE"

/-- The tables that make up words: alphabetic code points, marks, decimal digits, connectors and the two
joiners. -/
def wordRanges : List Ranges :=
  [alphabeticRanges, markRanges, digitRanges, connectorRanges, propertyNamed "JOINCONTROL"]

/-- Word characters of the newest edition. -/
def isWord (c : Char) : Bool :=
  if c.toNat < 0x80 then c.isAlphanum || c == '_'
  else wordRanges.any (·.covers c.toNat)

/-- Decimal digits of the newest edition. -/
def isDigit (c : Char) : Bool :=
  if c.toNat < 0x80 then c.isDigit else digitRanges.covers c.toNat

/-- The code points of a script, by a name in normal form; those of no script are the unknown ones. -/
def scriptNamed? (name : String) : Option Ranges :=
  (scriptRanges.find? fun (names, _) => names.contains name).map (·.2)

/-- The one range of a block, by a name in normal form. -/
def blockNamed? (name : String) : Option Ranges :=
  (blocks.find? fun (names, _) => names.contains name).map fun (_, first, last) => #[(first, last)]

def scriptNamed (name : String) : Ranges :=
  (scriptNamed? name).getD #[]

end Patchwork.Text
