/-
# Values in messages

How a value is shown to people, as opposed to how it is written in a file: texts
between quotes (`Text.quoted`), the words `None`, `True` and `False`, lists in
brackets and objects in braces.  A text on its own is shown as it is (`display`),
inside a list or object between quotes (`literal`).

Also what a value counts as: `truthy` values count as yes, `equalsInt` compares a
value with an integer as numbers, and `kindName` names the kind of a value.
-/

import PowerSupply.Json.Basic
import PowerSupply.Number.Shortest
import PowerSupply.Text.Quoted

namespace PowerSupply
namespace Json

mutual

/-- A value as it is shown inside another one. -/
def literal : Json → String
  | .null => "None"
  | .bool true => "True"
  | .bool false => "False"
  | .int n => toString n
  | .float x => x.toText
  | .str s => Text.quoted s
  | .arr items => "[" ++ ", ".intercalate (literals items) ++ "]"
  | .obj members => "\x7b" ++ ", ".intercalate (memberLiterals members) ++ "\x7d"

/-- The items of a list, each as it is shown. -/
def literals : List Json → List String
  | [] => []
  | j :: js => literal j :: literals js

/-- The members of an object, each as it is shown. -/
def memberLiterals : List (String × Json) → List String
  | [] => []
  | (k, v) :: ms => (Text.quoted k ++ ": " ++ literal v) :: memberLiterals ms

end

/-- A value as it is shown on its own. -/
def display : Json → String
  | .str s => s
  | j => j.literal

/-- Whether a value counts as yes: all but nothing, no, zero and the empty ones. -/
def truthy : Json → Bool
  | .null => false
  | .bool b => b
  | .int n => n != 0
  | .float x => !x.isZero
  | .str s => s != ""
  | .arr items => !items.isEmpty
  | .obj members => !members.isEmpty

/-- Whether a value is the given integer as a number, where yes counts as one and no
as zero. -/
def equalsInt (n : Int) : Json → Bool
  | .bool b => n == if b then 1 else 0
  | .int k => k == n
  | .float x => x.isInt n
  | _ => false

/-- The name of the kind of a value. -/
def kindName : Json → String
  | .null => "NoneType"
  | .bool _ => "bool"
  | .int _ => "int"
  | .float _ => "float"
  | .str _ => "str"
  | .arr _ => "list"
  | .obj _ => "dict"

end Json
end PowerSupply
