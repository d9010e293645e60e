import Mathlib.Algebra.Ring.Int.Defs

/-! JSON values. A number is an integer, if it is one that fits 64 bits, or another number. -/

namespace Lib

inductive Json where
  | null
  | bool (b : Bool)
  | int (n : ℤ)
  | float (text : String)
  | string (s : String)
  | array (values : List Json)
  | object (fields : List (String × Json))

namespace Json

/-- The value of a field of an object. -/
def get (key : String) : Json → Option Json
  | .object fields => (fields.find? fun field => field.1 = key).map (·.2)
  | _ => none

def asStr : Json → Option String
  | .string s => some s
  | _ => none

def asI64 : Json → Option ℤ
  | .int n => if -2 ^ 63 ≤ n ∧ n < 2 ^ 63 then some n else none
  | _ => none

def asU64 : Json → Option ℤ
  | .int n => if 0 ≤ n ∧ n < 2 ^ 64 then some n else none
  | _ => none

end Json

end Lib
