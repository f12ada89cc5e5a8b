import Patchwork.Text.CategoryTable
import Patchwork.Text.Ranges

/-!
General categories: single ones by their two letters, groups of them by one. Tables hold the newest edition of the
character set; identifiers, printed forms and plain patterns keep to an earlier one.
-/

namespace Patchwork.Text

/-! ## General categories -/

/-- The ranges of all categories whose letters satisfy a test. -/
def rangesWhere (p : String → Bool) : Ranges :=
  .merge ((categoryRanges.filter fun (name, _) => p name).map (·.2))

def inCategories (names : List String) : Ranges :=
  rangesWhere names.contains

/-- Letters of the newest edition. -/
def letterRanges : Ranges := inCategories ["Lu", "Ll", "Lt", "Lm", "Lo"]

/-- Combining marks. -/
def markRanges : Ranges := inCategories ["Mn", "Mc", "Me"]

def enclosingRanges : Ranges := inCategories ["Me"]

/-- Decimal digits; each range is made of whole runs from zero to nine. -/
def digitRanges : Ranges := inCategories ["Nd"]

def letterNumberRanges : Ranges := inCategories ["Nl"]

def otherNumberRanges : Ranges := inCategories ["No"]

def connectorRanges : Ranges := inCategories ["Pc"]

/-- Code points with a printed form, the separators apart. -/
def visibleRanges : Ranges :=
  rangesWhere fun name => !(["Cc", "Cf", "Cs", "Co", "Zl", "Zp", "Zs"].contains name)

/-! ## The earlier edition -/

/-- Code points assigned since the earlier edition, which are unassigned there. -/
def laterRanges : Ranges := .ofText "558 88f 897 c5c cdc cf3 ece 1acf-1add 1ae0-1aeb 1b4e-1b4f 1b7f 1c89-1c8a 20c1 2427-2429 2b96
  2ffc-2fff 31e4-31e5 31ef a7cb-a7cf a7d2 a7d4 a7da-a7dc a7f1 fbc3-fbd2 fd90-fd91 fdc8-fdce
  105c0-105f3 10940-10959 10d40-10d65 10d69-10d85 10d8e-10d8f 10ec2-10ec7 10ed0-10ed8
  10efa-10eff 1123f-11241 11380-11389 1138b 1138e 11390-113b5 113b7-113c0 113c2 113c5
  113c7-113ca 113cc-113d5 113d7-113d8 113e1-113e2 116d0-116e3 11b00-11b09 11b60-11b67
  11bc0-11be1 11bf0-11bf9 11db0-11ddb 11de0-11de9 11f00-11f10 11f12-11f3a 11f3e-11f5a 1342f
  13439-13455 13460-143fa 16100-16139 16d40-16d79 16ea0-16eb8 16ebb-16ed3 16ff2-16ff6
  187f8-187ff 18cff 18d09-18d1e 18d80-18df2 1b132 1b155 1cc00-1ccfc 1cd00-1ceb3 1ceba-1ced0
  1cee0-1cef0 1d2c0-1d2d3 1df25-1df2a 1e030-1e06d 1e08f 1e4d0-1e4f9 1e5d0-1e5fa 1e5ff
  1e6c0-1e6de 1e6e0-1e6f5 1e6fe-1e6ff 1f6d8 1f6dc 1f774-1f77f 1f7d9 1f8b2-1f8bb 1f8c0-1f8c1
  1f8d0-1f8d8 1fa54-1fa57 1fa75-1fa77 1fa87-1fa8a 1fa8e-1fa8f 1faad-1faaf 1fabb-1fabf 1fac6
  1fac8 1facd-1facf 1fada-1fadc 1fadf 1fae8-1faea 1faef 1faf7-1faf8 1fbcb-1fbef 1fbfa
  2b739-2b73f 2cea2-2cead 2ebf0-2ee5d 31350-33479"

def isLater (c : Nat) : Bool :=
  0x80 ≤ c && laterRanges.covers c

/-- Whether a code point is in a class by the earlier edition. -/
def inEarlier (r : Ranges) (c : Nat) : Bool :=
  r.covers c && !isLater c

end Patchwork.Text
