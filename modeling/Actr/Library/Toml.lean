import Mathlib.Data.List.Basic

/-!
# TOML values

The values of a parsed document. A float is kept as its bits and a date as its text.
-/

namespace Actr.Library.Toml

inductive Value where
  | string (text : String)
  | integer (number : Int)
  | float (bits : UInt64)
  | boolean (flag : Bool)
  | datetime (text : String)
  | array (items : List Value)
  | table (entries : List (String × Value))

namespace Value

def get (value : Value) (key : String) : Option Value :=
  match value with
  | table entries => entries.lookup key
  | _ => none

def asStr : Value → Option String
  | string text => some text
  | _ => none

def getStr (value : Value) (key : String) : Option String := (value.get key).bind asStr

end Value

end Actr.Library.Toml
