import ChainWatch.Json.Value
import ChainWatch.Binary64.Text
import ChainWatch.Unicode.Properties

/-!
# Decoding JSON values into records

A decoder reads a `Json` value as a value of a record type or a scalar, and on failure says why
in a `DecodeError`. The rules are those of derived record decoders:

* a record read from an object visits the members in the order they were written and stops at
  the first member whose value is refused or that names a field a second time; only then is the
  first missing required field, in declaration order, reported; unknown members are ignored; an
  optional field may be left out;
* a record read from an array takes its fields by position, and an array that is too short or
  too long is refused by its length;
* anything else is refused by its type.

`DecodeError.message` is the one place where the texts of the errors are written.
-/

namespace ChainWatch

/-- What a decoder found where it expected something else. -/
inductive Unexpected where
  | null
  | bool (b : Bool)
  | unsigned (n : Nat)
  | signed (n : Int)
  | float (x : Binary64)
  | str (s : String)
  | seq
  | map

/-- Why a JSON value does not decode. -/
inductive DecodeError where
  | missingField (name : String)
  /-- An object named the field twice. -/
  | duplicateField (name : String)
  | invalidType (found : Unexpected) (expected : String)
  | invalidValue (found : Unexpected) (expected : String)
  | invalidLength (length : Nat) (expected : String)
  /-- None of the alternatives of a choice accepted the value. -/
  | noVariant (choice : String)
  /-- A refusal by a rule of the value itself, with its text. -/
  | custom (text : String)

/-- A decoder of values of type `α`. -/
abbrev Decoder (α : Type) := Json → Except DecodeError α

namespace Unexpected

/-- What a JSON value is, for an error message. -/
def ofJson : Json → Unexpected
  | .null => null
  | .bool b => bool b
  | .nat n => unsigned n
  | .neg n => signed n
  | .float x => float x
  | .str s => str s
  | .arr _ => seq
  | .obj _ => map

/-- Whether a character is written as itself when a string is quoted for a message: it is
printable and does not extend a grapheme, so it cannot vanish into or change the character
before it. -/
def printsAsItself (c : Char) : Bool :=
  Unicode.isPrintable c.toNat && !Unicode.isGraphemeExtend c.toNat

/-- Lowercase hexadecimal digits of a number, without leading zeros. -/
def hexDigits (n : Nat) : String := String.ofList (Nat.toDigits 16 n)

/-- A character as written inside a quoted string of a message. -/
def quoteChar (c : Char) : String :=
  if c == '"' then "\\\""
  else if c == '\\' then "\\\\"
  else if c == '\n' then "\\n"
  else if c == '\r' then "\\r"
  else if c == '\t' then "\\t"
  else if c == '\x00' then "\\0"
  else if printsAsItself c then String.singleton c
  else "\\u" ++ "\x7b" ++ hexDigits c.toNat ++ "\x7d"

/-- A string in double quotes, escaped for a message. -/
def quoted (s : String) : String := "\"" ++ String.join (s.toList.map quoteChar) ++ "\""

/-- The description of what was found, as messages write it. -/
def describe : Unexpected → String
  | null => "null"
  | bool b => "boolean `" ++ (if b then "true" else "false") ++ "`"
  | unsigned n => "integer `" ++ Nat.repr n ++ "`"
  | signed n => "integer `" ++ (if n < 0 then "-" else "") ++ Nat.repr n.natAbs ++ "`"
  | float x => "floating point `" ++ Binary64.toText x ++ "`"
  | str s => "string " ++ quoted s
  | seq => "sequence"
  | map => "map"

end Unexpected

/-- The text of a decoding error. -/
def DecodeError.message : DecodeError → String
  | .missingField name => "missing field `" ++ name ++ "`"
  | .duplicateField name => "duplicate field `" ++ name ++ "`"
  | .invalidType found expected => "invalid type: " ++ found.describe ++ ", expected " ++ expected
  | .invalidValue found expected => "invalid value: " ++ found.describe ++ ", expected " ++ expected
  | .invalidLength n expected => "invalid length " ++ Nat.repr n ++ ", expected " ++ expected
  | .noVariant choice => "data did not match any variant of untagged enum " ++ choice
  | .custom text => text

namespace Decoder

/-- Refuses a value by its type. -/
def refuse (expected : String) (j : Json) : DecodeError :=
  .invalidType (Unexpected.ofJson j) expected

/-- A natural number below `2 ^ 64`; a negative integer is refused by its value. -/
def u64 : Decoder Nat
  | .nat n => .ok n
  | .neg n => .error (.invalidValue (.signed n) "u64")
  | j => .error (refuse "u64" j)

/-- An integer from `-2 ^ 63` to below `2 ^ 63`; a larger natural is refused by its value. -/
def i64 : Decoder Int
  | .nat n => if n < Nat.pow 2 63 then .ok n else .error (.invalidValue (.unsigned n) "i64")
  | .neg n => .ok n
  | j => .error (refuse "i64" j)

/-- A truth value. -/
def bool : Decoder Bool
  | .bool b => .ok b
  | j => .error (refuse "a boolean" j)

/-- A string. -/
def string : Decoder String
  | .str s => .ok s
  | j => .error (refuse "a string" j)

/-- An optional value: `null` is absent. -/
def option (d : Decoder α) : Decoder (Option α)
  | .null => .ok none
  | j => (d j).map some

/-- Any value, kept as it is. -/
def json : Decoder Json := fun j => .ok j

/-- The first alternative that accepts the value; `choice` names the choice in the error. -/
def firstOf (choice : String) : List (Decoder α) → Decoder α
  | [] => fun _ => .error (.noVariant choice)
  | d :: ds => fun j => match d j with
    | .ok a => .ok a
    | .error _ => firstOf choice ds j

end Decoder

/-- When a field of a record may be left out. -/
inductive Absence where
  /-- Never: an object must name it and an array must reach it. -/
  | required
  /-- An object may leave it out; an array must still reach it. -/
  | optionalField
  /-- An object may leave it out, and so may an array that ends before it. -/
  | defaulted
  deriving DecidableEq

/-- A field of a record: its name, when it may be left out, and the check of its value. -/
structure FieldRule where
  name : String
  absence : Absence
  check : Json → Option DecodeError

/-- The rule of a field read by decoder `d`. -/
def FieldRule.of (name : String) (absence : Absence) (d : Decoder α) : FieldRule :=
  { name, absence, check := fun j => match d j with | .ok _ => none | .error e => some e }

/-- The first member of an object, in the order written, that a rule of `rules` refuses: one
whose field was named before, among `seen` or earlier in the list, or whose value its field
refuses. Members that name no field are passed over. -/
def firstRefusal (rules : List FieldRule) (seen : List String) : List (String × Json) → Option DecodeError
  | [] => none
  | (k, v) :: rest => match rules.find? (·.name == k) with
    | none => firstRefusal rules seen rest
    | some r =>
      if seen.contains k then some (.duplicateField k)
      else match r.check v with
        | some e => some e
        | none => firstRefusal rules (k :: seen) rest

/-- The first required field an object leaves out. -/
def firstMissing (members : List (String × Json)) : List FieldRule → Option DecodeError
  | [] => none
  | r :: rest =>
    if r.absence = .required ∧ (members.find? (·.1 == r.name)).isNone then some (.missingField r.name)
    else firstMissing members rest

/-- Reads the fields of a record from an array, by position. -/
def readPositional (record : String) (count : Nat) (items : List Json) :
    Nat → List FieldRule → Except DecodeError (List (String × Json))
  | _, [] => if items.length > count then .error (.invalidLength items.length "fewer elements in array")
      else .ok []
  | i, r :: rest => match items[i]? with
    | some v => match r.check v with
      | some e => .error e
      | none => (readPositional record count items (i + 1) rest).map ((r.name, v) :: ·)
    | none =>
      if r.absence = .defaulted then readPositional record count items (i + 1) rest
      else .error (.invalidLength i ("struct " ++ record ++ " with " ++ Nat.repr count ++
        (if count = 1 then " element" else " elements")))

/-- The members of a record value, checked as a derived decoder checks them, and given back as
a list of named values: from an object its members as written, from an array its items named
by position. Fails with the error a derived decoder of record `record` reports first. -/
def readRecord (record : String) (rules : List FieldRule) (j : Json) :
    Except DecodeError (List (String × Json)) :=
  match j with
  | .obj members =>
    match firstRefusal rules [] members with
    | some e => .error e
    | none => match firstMissing members rules with
      | some e => .error e
      | none => .ok members
  | .arr items => readPositional record rules.length items 0 rules
  | j => .error (Decoder.refuse ("struct " ++ record) j)

/-- The value of field `name` in checked members, read by `d`; a left-out field reads as `null`.
Checked members name each field at most once. -/
def fieldOf (members : List (String × Json)) (name : String) (d : Decoder α) :
    Except DecodeError α :=
  d ((members.find? (·.1 == name)).map (·.2) |>.getD .null)

end ChainWatch
