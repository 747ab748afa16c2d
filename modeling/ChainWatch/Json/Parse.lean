import ChainWatch.Json.Value

/-!
# Reading JSON text

`Json.parse` reads one JSON document. Numbers are sorted into their classes by how they are
written: digits alone give `Json.nat` when below `2 ^ 64` and `Json.neg` when negative and at or
above `-2 ^ 63`; `-0`, a fraction, an exponent or a larger integer give a binary64 number. That
number is computed the fast way rather than as the nearest one: the digits are kept in a 64-bit
significand, which is rounded to binary64 and then multiplied or divided by the binary64 power
of ten, so it may be one unit off the nearest (see `floatOfParts`). A number too large for
binary64 is refused. Strings decode the JSON escapes, a UTF-16
surrogate pair giving one character; a lone surrogate and an unescaped control character are
refused.

The reader is a recursive descent over the characters, with a fuel argument: the input's length
bounds both the nesting depth and the number of members of any one array or object.
-/

namespace ChainWatch

namespace Json

/-- JSON's blanks: space, tab, line feed and carriage return. -/
def isBlank (c : Char) : Bool := c == ' ' || c == '\t' || c == '\n' || c == '\r'

/-- Drops leading blanks. -/
def skipBlanks : List Char → List Char
  | c :: rest => if isBlank c then skipBlanks rest else c :: rest
  | [] => []

/-- The value of a decimal digit. -/
def digitValue (c : Char) : Nat := c.toNat - '0'.toNat

/-- The greatest significand a reader keeps: `2 ^ 64 - 1`. -/
def significandLimit : Nat := Nat.pow 2 64 - 1

/-- Reads digits into the significand `s` while it stays at or below `significandLimit`: the
significand, how many digits were read, and the rest, which starts with the digit that would
have passed the limit, if one did. -/
def readSignificand : List Char → Nat → Nat → Nat × Nat × List Char
  | c :: rest, s, n =>
    if c.isDigit && s * 10 + digitValue c ≤ significandLimit then
      readSignificand rest (s * 10 + digitValue c) (n + 1)
    else (s, n, c :: rest)
  | [], s, n => (s, n, [])

/-- Skips the leading digits: how many there were, and the rest. -/
def skipDigits : List Char → Nat → Nat × List Char
  | c :: rest, n => if c.isDigit then skipDigits rest (n + 1) else (n, c :: rest)
  | [], n => (n, [])

/-- Reads the digits of an exponent as a 32-bit signed magnitude: `some` its value and the rest,
or `none` with the rest after every digit once it passes `2 ^ 31 - 1`. -/
def readExponentDigits : List Char → Nat → Option Nat × List Char
  | c :: rest, e =>
    if c.isDigit then
      if e * 10 + digitValue c ≤ 2147483647 then readExponentDigits rest (e * 10 + digitValue c)
      else (none, (skipDigits rest 0).2)
    else (some e, c :: rest)
  | [], e => (some e, [])

/-- The value of a hexadecimal digit. -/
def hexValue? (c : Char) : Option Nat :=
  if c.isDigit then some (digitValue c)
  else if 'a' ≤ c ∧ c ≤ 'f' then some (c.toNat - 'a'.toNat + 10)
  else if 'A' ≤ c ∧ c ≤ 'F' then some (c.toNat - 'A'.toNat + 10)
  else none

/-- Four hexadecimal digits as a number. -/
def hex4? : List Char → Option (Nat × List Char)
  | a :: b :: c :: d :: rest => do
    let a ← hexValue? a
    let b ← hexValue? b
    let c ← hexValue? c
    let d ← hexValue? d
    pure (((a * 16 + b) * 16 + c) * 16 + d, rest)
  | _ => none

/-- A decimal exponent clamped to the 32-bit signed range. -/
def clampExponent (e : Int) : Int := max (-2147483648) (min 2147483647 e)

/-- The binary64 value of `significand * 10 ^ exponent`: the significand rounded to binary64,
then scaled by one rounded operation per step (`Binary64.scaleByTen`), the sign applied last.
`none` when it is too large. -/
def floatOfParts (negative : Bool) (significand : Nat) (exponent : Int) : Option Binary64 :=
  (Binary64.scaleByTen (Binary64.ofNat significand) exponent).map fun f =>
    if negative then f.negate else f

/-- Reads an exponent after its `e` or `E`, for a significand and the decimal exponent its
digits imply. An exponent past the 32-bit range gives a zero, or `none` when it is positive and
the significand is not zero. -/
def readExponent (negative : Bool) (significand : Nat) (implied : Int) (cs : List Char) :
    Option (Json × List Char) :=
  let (positive, cs) : Bool × List Char := match cs with
    | '+' :: rest => (true, rest)
    | '-' :: rest => (false, rest)
    | rest => (true, rest)
  match cs with
  | c :: _ =>
    if !c.isDigit then none
    else match readExponentDigits cs 0 with
      | (some e, rest) =>
        let exponent := clampExponent (if positive then implied + e else implied - e)
        (floatOfParts negative significand exponent).map fun x => (float x, rest)
      | (none, rest) =>
        if significand ≠ 0 && positive then none
        else some (float (if negative then Binary64.zero.negate else Binary64.zero), rest)
  | [] => none

/-- What follows the digits of a number: an exponent, or the end of the number. -/
def afterDigits (negative : Bool) (significand : Nat) (implied : Int) (cs : List Char) :
    Option (Json × List Char) :=
  match cs with
  | c :: rest =>
    if c == 'e' || c == 'E' then readExponent negative significand implied rest
    else (floatOfParts negative significand implied).map fun x => (float x, cs)
  | [] => (floatOfParts negative significand implied).map fun x => (float x, [])

/-- Reads a fraction after its point, for the significand of the integer part and the decimal
exponent its dropped digits imply. At least one digit is needed; digits past the significand's
limit are dropped. -/
def readFraction (negative : Bool) (significand : Nat) (implied : Int) (cs : List Char) :
    Option (Json × List Char) :=
  let (s, n, rest) := readSignificand cs significand 0
  match rest with
  | c :: _ =>
    if c.isDigit then afterDigits negative s (implied - n) (skipDigits rest 0).2
    else if n = 0 then none
    else afterDigits negative s (implied - n) rest
  | [] => if n = 0 then none else afterDigits negative s (implied - n) []

/-- Reads a number after its optional minus sign. Its digits go into a significand of at most
64 bits; integer digits past that raise the decimal exponent, fraction digits past it are
dropped. -/
def parseNumber (negative : Bool) (cs : List Char) : Option (Json × List Char) :=
  let afterInteger (significand : Nat) (implied : Int) (rest : List Char) : Option (Json × List Char) :=
    match rest with
    | '.' :: more => readFraction negative significand implied more
    | c :: more =>
      if c == 'e' || c == 'E' then readExponent negative significand implied more
      else if implied ≠ 0 then afterDigits negative significand implied rest
      else if !negative then some (nat significand, rest)
      else if significand = 0 then some (float Binary64.zero.negate, rest)
      else if significand ≤ Nat.pow 2 63 then some (neg (-(significand : Int)), rest)
      else some (float (Binary64.ofNat significand).negate, rest)
    | [] =>
      if implied ≠ 0 then afterDigits negative significand implied []
      else if !negative then some (nat significand, [])
      else if significand = 0 then some (float Binary64.zero.negate, [])
      else if significand ≤ Nat.pow 2 63 then some (neg (-(significand : Int)), [])
      else some (float (Binary64.ofNat significand).negate, [])
  match cs with
  | '0' :: rest => match rest with
    | c :: _ => if c.isDigit then none else afterInteger 0 0 rest
    | [] => afterInteger 0 0 rest
  | c :: _ =>
    if c.isDigit then
      let (s, _, rest) := readSignificand cs 0 0
      match rest with
      | d :: _ =>
        if d.isDigit then
          let (dropped, rest) := skipDigits rest 0
          afterInteger s dropped rest
        else afterInteger s 0 rest
      | [] => afterInteger s 0 rest
    else none
  | [] => none

/-- Reads the rest of a string after its opening quote, up to and including the closing one. -/
def parseString : Nat → List Char → List Char → Option (String × List Char)
  | 0, _, _ => none
  | fuel + 1, acc, cs => match cs with
    | '"' :: rest => some (String.ofList acc.reverse, rest)
    | '\\' :: c :: rest =>
      match c with
      | '"' => parseString fuel ('"' :: acc) rest
      | '\\' => parseString fuel ('\\' :: acc) rest
      | '/' => parseString fuel ('/' :: acc) rest
      | 'b' => parseString fuel ('\x08' :: acc) rest
      | 'f' => parseString fuel ('\x0c' :: acc) rest
      | 'n' => parseString fuel ('\n' :: acc) rest
      | 'r' => parseString fuel ('\r' :: acc) rest
      | 't' => parseString fuel ('\t' :: acc) rest
      | 'u' => match hex4? rest with
        | none => none
        | some (u, rest) =>
          if 0xD800 ≤ u ∧ u < 0xDC00 then
            match rest with
            | '\\' :: 'u' :: more => match hex4? more with
              | some (l, more) =>
                if 0xDC00 ≤ l ∧ l < 0xE000 then
                  parseString fuel (Char.ofNat (0x10000 + (u - 0xD800) * 0x400 + (l - 0xDC00)) :: acc) more
                else none
              | none => none
            | _ => none
          else if 0xDC00 ≤ u ∧ u < 0xE000 then none
          else parseString fuel (Char.ofNat u :: acc) rest
      | _ => none
    | c :: rest => if c.toNat < 0x20 then none else parseString fuel (c :: acc) rest
    | [] => none

mutual

/-- Reads one value after optional blanks. -/
def parseValue : Nat → List Char → Option (Json × List Char)
  | 0, _ => none
  | fuel + 1, cs => match skipBlanks cs with
    | 'n' :: 'u' :: 'l' :: 'l' :: rest => some (null, rest)
    | 't' :: 'r' :: 'u' :: 'e' :: rest => some (bool true, rest)
    | 'f' :: 'a' :: 'l' :: 's' :: 'e' :: rest => some (bool false, rest)
    | '"' :: rest => (parseString (rest.length + 1) [] rest).map fun (s, r) => (str s, r)
    | '[' :: rest => match skipBlanks rest with
      | ']' :: rest => some (arr [], rest)
      | _ => (parseItems fuel [] rest).map fun (xs, r) => (arr xs, r)
    | '{' :: rest => match skipBlanks rest with
      | '}' :: rest => some (obj [], rest)
      | _ => (parseMembers fuel [] rest).map fun (ms, r) => (obj ms, r)
    | '-' :: rest => parseNumber true rest
    | cs => parseNumber false cs

/-- Reads the items of an array after its opening bracket, up to the closing one. -/
def parseItems : Nat → List Json → List Char → Option (List Json × List Char)
  | 0, _, _ => none
  | fuel + 1, acc, cs => match parseValue fuel cs with
    | none => none
    | some (v, rest) => match skipBlanks rest with
      | ',' :: rest => parseItems fuel (v :: acc) rest
      | ']' :: rest => some ((v :: acc).reverse, rest)
      | _ => none

/-- Reads the members of an object after its opening brace, up to the closing one. -/
def parseMembers : Nat → List (String × Json) → List Char → Option (List (String × Json) × List Char)
  | 0, _, _ => none
  | fuel + 1, acc, cs => match skipBlanks cs with
    | '"' :: rest => match parseString (rest.length + 1) [] rest with
      | none => none
      | some (key, rest) => match skipBlanks rest with
        | ':' :: rest => match parseValue fuel rest with
          | none => none
          | some (v, rest) => match skipBlanks rest with
            | ',' :: rest => parseMembers fuel ((key, v) :: acc) rest
            | '}' :: rest => some (((key, v) :: acc).reverse, rest)
            | _ => none
        | _ => none
    | _ => none

end

/-- Reads a whole JSON document, refusing anything but blanks after the value. -/
def parse (s : String) : Option Json :=
  let cs := s.toList
  match parseValue (2 * cs.length + 2) cs with
  | some (v, rest) => if (skipBlanks rest).isEmpty then some v else none
  | none => none

end Json

end ChainWatch
