import Patchwork.Number.Binary64
import Patchwork.Number.FloatText
import Patchwork.Text.Quoted

/-!
JSON values and their text on one line. Whole numbers keep all their digits and objects keep the order of their members.
-/

namespace Patchwork

inductive Json where
  | null
  | bool (b : Bool)
  | int (n : Int)
  | float (x : Number.Binary64)
  | str (s : String)
  | arr (items : List Json)
  | obj (members : List (String × Json))
  deriving Inhabited

namespace Json

/-- Adds a member; a repeated name keeps its place and takes the later value. -/
def insertMember (members : List (String × Json)) (name : String) (value : Json) :
    List (String × Json) :=
  if members.any (·.1 == name) then
    members.map fun m => if m.1 == name then (name, value) else m
  else members ++ [(name, value)]

/-- The member of an object. -/
def get? (name : String) : Json → Option Json
  | obj members => (members.find? (·.1 == name)).map (·.2)
  | _ => none

/-! ## Writing -/

def writtenChar (c : Char) : List Char :=
  match c with
  | '"' => ['\\', '"']
  | '\\' => ['\\', '\\']
  | '\n' => ['\\', 'n']
  | '\r' => ['\\', 'r']
  | '\t' => ['\\', 't']
  | c => if c.toNat < 0x20 || c.toNat = 0x7f then '\\' :: 'u' :: Text.hexDigits 4 c.toNat else [c]

def writtenString (s : String) : String :=
  String.ofList ('"' :: (s.toList.flatMap writtenChar ++ ['"']))

mutual

/-- The text of a value without blanks. -/
def written : Json → String
  | null => "null"
  | bool b => if b then "true" else "false"
  | int n => toString n
  | float x => x.text
  | str s => writtenString s
  | arr items => "[" ++ writtenItems items ++ "]"
  | obj members => "\x7b" ++ writtenMembers members ++ "\x7d"

def writtenItems : List Json → String
  | [] => ""
  | [v] => written v
  | v :: r => written v ++ "," ++ writtenItems r

def writtenMembers : List (String × Json) → String
  | [] => ""
  | [(n, v)] => writtenString n ++ ":" ++ written v
  | (n, v) :: r => writtenString n ++ ":" ++ written v ++ "," ++ writtenMembers r

end

end Json

end Patchwork
