import ChainWatch.Json.Value
import ChainWatch.Binary64.Basic

/-!
# Reading fields of a request

Requests and scenarios are JSON objects whose fields are read here, each failure explained in
words: a field that is missing, or that does not hold what it should. An absent optional field
and a `null` one are the same. Integers are 64-bit unsigned unless said otherwise.
-/

namespace ChainWatch

namespace Json

/-- A field that must be present. -/
def need (j : Json) (name : String) : Except String Json :=
  match j.get? name with
  | some v => .ok v
  | none => .error ("missing field " ++ name)

/-- A 64-bit unsigned integer. -/
def asU64 (name : String) : Json → Except String Nat
  | .nat n => if n < Nat.pow 2 64 then .ok n else .error ("field " ++ name ++ " is not a u64")
  | _ => .error ("field " ++ name ++ " is not a u64")

/-- A string. -/
def asString (name : String) : Json → Except String String
  | .str s => .ok s
  | _ => .error ("field " ++ name ++ " is not a string")

/-- A truth value. -/
def asBool (name : String) : Json → Except String Bool
  | .bool b => .ok b
  | _ => .error ("field " ++ name ++ " is not a bool")

/-- A list. -/
def asList (name : String) : Json → Except String (List Json)
  | .arr xs => .ok xs
  | _ => .error ("field " ++ name ++ " is not a list")

/-- A signed integer. -/
def asInt (name : String) : Json → Except String Int
  | .nat n => .ok n
  | .neg n => .ok n
  | _ => .error ("field " ++ name ++ " is not an integer")

/-- A number as a double: integers are converted. -/
def asFloat? : Json → Option Binary64
  | .float x => some x
  | .nat n => some (Binary64.ofNat n)
  | .neg n => some (Binary64.ofNat n.natAbs).negate
  | _ => none

/-- A required 64-bit unsigned field. -/
def natField (j : Json) (name : String) : Except String Nat := do asU64 name (← j.need name)

/-- A required string field. -/
def strField (j : Json) (name : String) : Except String String := do asString name (← j.need name)

/-- A required truth-value field. -/
def boolField (j : Json) (name : String) : Except String Bool := do asBool name (← j.need name)

/-- A required list field. -/
def listField (j : Json) (name : String) : Except String (List Json) := do asList name (← j.need name)

/-- A required signed integer field. -/
def intField (j : Json) (name : String) : Except String Int := do asInt name (← j.need name)

/-- An optional field, read by `f` when present and not `null`. -/
def optField (j : Json) (name : String) (f : String → Json → Except String α) :
    Except String (Option α) :=
  match j.get? name with
  | none | some .null => .ok none
  | some v => some <$> f name v

/-- An optional 64-bit unsigned field. -/
def optNatField (j : Json) (name : String) : Except String (Option Nat) := j.optField name asU64

/-- An optional string field. -/
def optStrField (j : Json) (name : String) : Except String (Option String) := j.optField name asString

end Json

end ChainWatch
