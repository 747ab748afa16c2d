import ChainWatch.Wire.Decode

/-!
# Integers written as decimal strings

Beacon node payloads write every integer as a decimal string. `readU64` reads one: an optional
plus sign, then decimal digits, the value below `2 ^ 64`. Leading zeros are allowed. The digits
are read left to right, and at each one the digit is checked before the value is: a text that
overflows before it reaches a stray character is refused as too large.
-/

namespace ChainWatch

/-- Why a decimal text is not a 64-bit unsigned integer. -/
inductive IntTextError where
  | empty
  | invalidDigit
  | tooLarge

/-- The text of the error, as the parser of integers writes it. -/
def IntTextError.message : IntTextError → String
  | .empty => "cannot parse integer from empty string"
  | .invalidDigit => "invalid digit found in string"
  | .tooLarge => "number too large to fit in target type"

/-- Reads decimal digit bytes onto `acc`, refusing a non-digit and a value past `2 ^ 64 - 1`. -/
def readDigits : List UInt8 → Nat → Except IntTextError Nat
  | [], acc => .ok acc
  | b :: rest, acc =>
    if 48 ≤ b ∧ b ≤ 57 then
      let v := 10 * acc + (b.toNat - 48)
      if 10 * acc ≥ Nat.pow 2 64 ∨ v ≥ Nat.pow 2 64 then .error .tooLarge else readDigits rest v
    else .error .invalidDigit

/-- A 64-bit unsigned integer from its decimal text with an optional plus sign. -/
def readU64 (s : String) : Except IntTextError Nat :=
  match s.toUTF8.toList with
  | [] => .error .empty
  | [43] => .error .invalidDigit
  | 43 :: rest => readDigits rest 0
  | bytes => readDigits bytes 0

/-- A 64-bit unsigned integer written as a decimal string. -/
def Decoder.quotedU64 : Decoder Nat := fun j =>
  match Decoder.string j with
  | .error e => .error e
  | .ok s => match readU64 s with
    | .ok n => .ok n
    | .error e => .error (.custom e.message)

end ChainWatch
