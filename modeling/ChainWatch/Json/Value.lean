import ChainWatch.Binary64.Basic

/-!
# JSON values

A JSON value with numbers in three classes, as a reader of JSON text sorts them: an integer
written without fraction or exponent that fits 64 bits unsigned (`Json.nat`), a negative one that
fits 64 bits signed (`Json.neg`), and every other number as the nearest binary64 number
(`Json.float`).

An object keeps its members in the order they were written. Read as a map (`Json.fields`), its
keys come in ascending order and the later of two equal keys wins, which is the order in which
decoders of this library visit them.
-/

namespace ChainWatch

/-- A JSON value. -/
inductive Json where
  | null
  | bool (b : Bool)
  /-- A non-negative integer below `2 ^ 64`. -/
  | nat (n : Nat)
  /-- A negative integer at or above `-2 ^ 63`. -/
  | neg (n : Int)
  | float (x : Binary64)
  | str (s : String)
  | arr (items : List Json)
  | obj (members : List (String × Json))
  deriving Inhabited

namespace Json

/-- The value of the last member named `key` of an object; `none` for a missing key or a value
that is not an object. -/
def get? (j : Json) (key : String) : Option Json :=
  match j with
  | obj ms => (ms.reverse.find? (·.1 == key)).map (·.2)
  | _ => none

/-- Inserts a member into a list sorted by key, replacing a member of the same key. -/
def insertSorted (m : String × Json) : List (String × Json) → List (String × Json)
  | [] => [m]
  | n :: rest =>
    if m.1 < n.1 then m :: n :: rest
    else if m.1 == n.1 then m :: rest
    else n :: insertSorted m rest

/-- The members of an object as a map: keys ascending, the later of two equal keys winning. -/
def sortedMembers (ms : List (String × Json)) : List (String × Json) :=
  ms.foldl (fun acc m => insertSorted m acc) []

/-- The members of an object read as a map; empty for any other value. -/
def fields (j : Json) : List (String × Json) :=
  match j with
  | obj ms => sortedMembers ms
  | _ => []

/-- The natural number of a `Json.nat`. -/
def nat? : Json → Option Nat
  | nat n => some n
  | _ => none

/-- The text of a `Json.str`. -/
def str? : Json → Option String
  | str s => some s
  | _ => none

/-- The truth value of a `Json.bool`. -/
def bool? : Json → Option Bool
  | bool b => some b
  | _ => none

/-- The items of a `Json.arr`. -/
def arr? : Json → Option (List Json)
  | arr xs => some xs
  | _ => none

/-- Whether the value is `null`. -/
def isNull : Json → Bool
  | null => true
  | _ => false

/-- The value of a member, with a missing member and `null` both read as absent. -/
def opt? (j : Json) (key : String) : Option Json :=
  match j.get? key with
  | some null => none
  | v => v

end Json

end ChainWatch
