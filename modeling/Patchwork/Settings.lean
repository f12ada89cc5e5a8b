import Patchwork.Number.Integer
import Patchwork.Text.Case

/-!
Settings from the environment. Each is read anew whenever it is asked for.
-/

namespace Patchwork

/-- The variables of the environment. -/
abbrev Environment := List (String × String)

namespace Environment

def get? (e : Environment) (name : String) : Option String :=
  (e.find? (·.1 == name)).map (·.2)

def isSet (e : Environment) (name : String) : Bool :=
  e.any (·.1 == name)

def set (e : Environment) (name value : String) : Environment :=
  if e.isSet name then e.map fun v => if v.1 == name then (name, value) else v else e ++ [(name, value)]

def unset (e : Environment) (name : String) : Environment :=
  e.filter (·.1 != name)

end Environment

/-- What can be set. -/
inductive Setting where
  | dev
  | diffContext
  | hostVersion
  | configureLogging
  | loggingConfigPath
  | loggingLevel
  | loggingPrefix
  deriving DecidableEq

/-- The value of a setting. -/
inductive Setting.Value where
  | none
  | bool (b : Bool)
  | int (n : Int)
  | text (s : String)
  deriving DecidableEq

namespace Setting

def all : List Setting :=
  [dev, diffContext, hostVersion, configureLogging, loggingConfigPath, loggingLevel, loggingPrefix]

def key : Setting → String
  | dev => "HOSTPATCH_DEV"
  | diffContext => "HOSTPATCH_DIFF_CONTEXT"
  | hostVersion => "HOSTPATCH_HOST_VERSION"
  | configureLogging => "HOSTPATCH_CONFIGURE_LOGGING"
  | loggingConfigPath => "HOSTPATCH_LOGGING_CONFIG_PATH"
  | loggingLevel => "HOSTPATCH_LOGGING_LEVEL"
  | loggingPrefix => "HOSTPATCH_LOGGING_PREFIX"

def ofKey? (name : String) : Option Setting :=
  all.find? (·.key == name)

/-- Text that should be a whole number; the text itself is the fault. -/
def readInt (text : String) : Except String Int :=
  match Number.intOf? text with
  | some n => .ok n
  | none => .error text

/-- The value in an environment; text that should be a number and is not is returned as a fault. -/
def read (e : Environment) : Setting → Except String Value
  | dev => .ok (.bool (e.get? dev.key == some "1"))
  | diffContext => (readInt ((e.get? diffContext.key).getD "200")).map .int
  | hostVersion => .ok (((e.get? hostVersion.key).map .text).getD .none)
  | configureLogging => (readInt ((e.get? configureLogging.key).getD "1")).map .int
  | loggingConfigPath => .ok (((e.get? loggingConfigPath.key).map .text).getD .none)
  | loggingLevel => .ok (.text (Text.upper ((e.get? loggingLevel.key).getD "INFO")))
  | loggingPrefix => .ok (.text ((e.get? loggingPrefix.key).getD ""))

end Setting

namespace Environment

/-- Whether development mode is on. -/
def isDev (e : Environment) : Bool :=
  e.get? Setting.dev.key == some "1"

def diffContext (e : Environment) : Except String Int :=
  Setting.readInt ((e.get? Setting.diffContext.key).getD "200")

def hostVersion? (e : Environment) : Option String :=
  e.get? Setting.hostVersion.key

end Environment

end Patchwork
