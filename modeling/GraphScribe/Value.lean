import GraphScribe.Double

/-!
# Values

A `Value` is a piece of data whose form is not known beforehand: a configuration setting, a
directive argument, a default, an introspection result.  `Value.isTruthy` says how it counts
as a condition.
-/

namespace GraphScribe

/-- A piece of data of any form; the names of an object are listed in order, each once. -/
inductive Value where
  | null
  | bool (b : Bool)
  | int (n : Int)
  | float (x : Double)
  | string (s : String)
  | list (items : List Value)
  | object (entries : List (String × Value))
  | undefined
deriving Inhabited

namespace Value

/-- Whether the value counts as true: zero, nothing and what is empty do not. -/
def isTruthy : Value → Bool
  | null => false
  | bool b => b
  | int n => n != 0
  | float x => !x.isZero
  | string s => !s.isEmpty
  | list items => !items.isEmpty
  | object entries => !entries.isEmpty
  | undefined => false

/-- Whether the value is `null`. -/
def isNull : Value → Bool
  | null => true
  | _ => false

/-- The entries of an object. -/
def entries? : Value → Option (List (String × Value))
  | object entries => some entries
  | _ => none

/-- The word that messages use for the sort of the value. -/
def sort : Value → String
  | null => "NoneType"
  | bool _ => "bool"
  | int _ => "int"
  | float _ => "float"
  | string _ => "str"
  | list _ => "list"
  | object _ => "dict"
  | undefined => "UndefinedType"

end Value

end GraphScribe
