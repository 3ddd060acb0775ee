import FirewallOrder.Number.Text
import FirewallOrder.Text.Quoted
/-!
# Values of settings

A setting may come from a file or from the environment, and both write values of several kinds. A
setting wants one kind; what is of another kind is reported with the kind that was found.
-/

namespace FirewallOrder

/-- A value as a source of settings gives it. No setting is a list or a table, so of those it does
not matter what they hold. -/
inductive SettingValue
  | text (s : String)
  | bool (b : Bool)
  /-- A whole number without sign. -/
  | natural (n : Nat)
  /-- A whole number with its sign. -/
  | integer (n : Int)
  | float (x : Binary64)
  | list
  | table
  deriving DecidableEq, Repr

/-- What a message calls the value. -/
def SettingValue.describe : SettingValue → String
  | text s => "string " ++ Text.quote s
  | bool b => "bool " ++ (if b then "true" else "false")
  | natural n => "unsigned int `" ++ toString n ++ "`"
  | integer n => "signed int `" ++ toString n ++ "`"
  | float x => "float `" ++ x.display ++ "`"
  | list => "sequence"
  | table => "map"

/-- Why a value is none for the setting that it is given to. -/
inductive ValueFault
  /-- It is of another kind. -/
  | kind (found : SettingValue) (wanted : String)
  /-- It is out of range. -/
  | range (found : SettingValue) (wanted : String)
  deriving DecidableEq, Repr

def ValueFault.message : ValueFault → String
  | kind found wanted => "invalid type: found " ++ found.describe ++ ", expected " ++ wanted
  | range found wanted => "invalid value " ++ found.describe ++ ", expected " ++ wanted

namespace SettingValue

/-- A text; `wanted` is its name in messages. -/
def toText (wanted : String) : SettingValue → Except ValueFault String
  | text s => .ok s
  | other => .error (.kind other wanted)

def toBool : SettingValue → Except ValueFault Bool
  | bool b => .ok b
  | other => .error (.kind other "a boolean")

/-- A whole number that is not negative. -/
def toNat : SettingValue → Except ValueFault Nat
  | natural n => .ok n
  | integer n => if 0 ≤ n then .ok n.toNat else .error (.range (.integer n) "u64")
  | other => .error (.kind other "u64")

end SettingValue

end FirewallOrder
