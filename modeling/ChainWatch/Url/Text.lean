/-!
# Text of service addresses: errors and percent-encoding

A service address is read as a URL. This module holds what every part of that reader shares:

* `UrlError`, why an address is refused, with the name and the text each refusal is reported
  with;
* `EncodeSet`, the sets of bytes that are written as `%XX` in each part of a URL, and
  `percentEncode`, which writes a character as its UTF-8 bytes, escaping those of the set and
  every byte that is not ASCII;
* `percentDecode`, which turns `%XX` back into bytes and leaves a `%` that is not followed by two
  hexadecimal digits as it is.
-/

namespace ChainWatch

/-- Why a text is not a usable URL. -/
inductive UrlError where
  | emptyHost
  | idna
  | invalidPort
  | invalidIpv4
  | invalidIpv6
  | invalidDomainCharacter
  | relativeWithoutBase
  deriving DecidableEq, Repr

namespace UrlError

/-- The name of the refusal. -/
def name : UrlError → String
  | emptyHost => "EmptyHost"
  | idna => "IdnaError"
  | invalidPort => "InvalidPort"
  | invalidIpv4 => "InvalidIpv4Address"
  | invalidIpv6 => "InvalidIpv6Address"
  | invalidDomainCharacter => "InvalidDomainCharacter"
  | relativeWithoutBase => "RelativeUrlWithoutBase"

/-- The text of the refusal. -/
def message : UrlError → String
  | emptyHost => "empty host"
  | idna => "invalid international domain name"
  | invalidPort => "invalid port number"
  | invalidIpv4 => "invalid IPv4 address"
  | invalidIpv6 => "invalid IPv6 address"
  | invalidDomainCharacter => "invalid domain character"
  | relativeWithoutBase => "relative URL without a base"

end UrlError

/-- The sets of ASCII bytes escaped in the parts of a URL; bytes that are not ASCII are always
escaped. Each set holds the ones before it in the order `controls`, `fragment`; `controls`,
`query`, `specialQuery`; `query`, `path`, `userinfo`. -/
inductive EncodeSet where
  /-- Control bytes and DEL: opaque paths and opaque hosts. -/
  | controls
  /-- Fragments. -/
  | fragment
  /-- Queries of URLs with a scheme that is not special. -/
  | query
  /-- Queries of URLs with a special scheme. -/
  | specialQuery
  /-- Path segments. -/
  | path
  /-- User names and passwords. -/
  | userinfo

namespace EncodeSet

/-- Whether a byte is a control byte or DEL. -/
def isControlByte (b : Nat) : Bool := b < 0x20 || b == 0x7F

/-- Whether a byte is escaped in a query. -/
def isQueryByte (b : Nat) : Bool := isControlByte b || [0x20, 0x22, 0x23, 0x3C, 0x3E].contains b

/-- Whether a byte is escaped in a path segment. -/
def isPathByte (b : Nat) : Bool := isQueryByte b || [0x3F, 0x60, 0x7B, 0x7D].contains b

/-- Whether ASCII byte `b` is escaped by the set. -/
def has : EncodeSet → Nat → Bool
  | controls, b => isControlByte b
  | fragment, b => isControlByte b || [0x20, 0x22, 0x3C, 0x3E, 0x60].contains b
  | query, b => isQueryByte b
  | specialQuery, b => isQueryByte b || b == 0x27
  | path, b => isPathByte b
  | userinfo, b => isPathByte b || [0x2F, 0x3A, 0x3B, 0x3D, 0x40, 0x5B, 0x5C, 0x5D, 0x5E, 0x7C].contains b

end EncodeSet

/-- An uppercase hexadecimal digit. -/
def upperHexDigit (d : Nat) : Char :=
  if d < 10 then Char.ofNat (48 + d) else Char.ofNat (55 + d)

/-- A byte written as it is, or as `%XX` when `set` escapes it or it is not ASCII. -/
def percentEncodeByte (set : EncodeSet) (b : Nat) : List Char :=
  if 0x80 ≤ b || set.has b then ['%', upperHexDigit (b / 16), upperHexDigit (b % 16)]
  else [Char.ofNat b]

/-- A character written as its UTF-8 bytes, escaped by `set`. -/
def percentEncode (set : EncodeSet) (c : Char) : List Char :=
  (String.singleton c).toUTF8.toList.flatMap fun b => percentEncodeByte set b.toNat

/-- Text written byte by byte, escaped by `set`. -/
def percentEncodeAll (set : EncodeSet) (cs : List Char) : List Char := cs.flatMap (percentEncode set)

/-- The value of a hexadecimal digit byte, in either case. -/
def hexByteValue (b : Nat) : Option Nat :=
  if 48 ≤ b ∧ b ≤ 57 then some (b - 48)
  else if 65 ≤ b ∧ b ≤ 70 then some (b - 55)
  else if 97 ≤ b ∧ b ≤ 102 then some (b - 87)
  else none

/-- Bytes with every `%XX` replaced by the byte it stands for. -/
def percentDecode : List Nat → List Nat
  | 37 :: tail@(h :: l :: rest) =>
    match hexByteValue h, hexByteValue l with
    | some a, some b => (16 * a + b) :: percentDecode rest
    | _, _ => 37 :: percentDecode tail
  | b :: rest => b :: percentDecode rest
  | [] => []

/-- Text cut at every `sep`: `n` separators give `n + 1` pieces. -/
def splitOnChar (sep : Char) : List Char → List (List Char)
  | [] => [[]]
  | c :: cs =>
    if c = sep then [] :: splitOnChar sep cs
    else match splitOnChar sep cs with
      | p :: ps => (c :: p) :: ps
      | [] => [[c]]

/-- Whether a character is an ASCII letter. -/
def isAsciiAlpha (c : Char) : Bool := ('a' ≤ c && c ≤ 'z') || ('A' ≤ c && c ≤ 'Z')

/-- Whether a character is an ASCII digit. -/
def isAsciiDigit (c : Char) : Bool := '0' ≤ c && c ≤ '9'

/-- An ASCII letter in lowercase; any other character as it is. -/
def asciiLower (c : Char) : Char := if 'A' ≤ c && c ≤ 'Z' then Char.ofNat (c.toNat + 32) else c

end ChainWatch
