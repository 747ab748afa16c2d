import ChainWatch.Wire.Decode

/-!
# Hexadecimal quantities and hashes

Quantities such as block numbers and balances travel as hexadecimal strings, and so do 20-byte
hashes such as addresses. The reader is lenient in a precise way:

* an optional `0x` is dropped, and the length `L` in bytes of what is left is checked: at most
  twice the byte width and not zero for a quantity, exactly twice the width for a hash;
* the bytes are then read in turn: a space, tab, line feed or carriage return is skipped, any
  other byte that is not a hexadecimal digit is refused, reporting that byte and its position in
  the whole string;
* a digit counter starts at `L % 2`; each digit raises it, and each time it reaches two a byte is
  emitted from the last two digits, the first digit of an odd text standing alone.

A quantity is the big-endian value of the emitted bytes; a hash is filled from its first byte, and
bytes never emitted stay zero.
-/

namespace ChainWatch

/-- How many bytes a hexadecimal field holds. -/
inductive HexSize where
  /-- A quantity of up to this many bytes, not empty. -/
  | upTo (bytes : Nat)
  /-- A hash of exactly this many bytes. -/
  | exactly (bytes : Nat)

namespace HexSize

/-- The byte count as messages describe it. -/
def describe : HexSize → String
  | upTo n => "between (0; " ++ Nat.repr n ++ "] bytes"
  | exactly n => Nat.repr n ++ " bytes"

/-- Whether a text of `len` bytes after the prefix has an acceptable length. -/
def accepts : HexSize → Nat → Bool
  | upTo n, len => 0 < len && len ≤ 2 * n
  | exactly n, len => len == 2 * n

/-- What a hexadecimal field is expected to be, for messages. -/
def expectation (s : HexSize) : String :=
  "a (both 0x-prefixed or not) hex string or byte array containing " ++ s.describe

end HexSize

/-- The value of a hexadecimal digit byte. -/
def hexNibble? (b : UInt8) : Option Nat :=
  if 48 ≤ b ∧ b ≤ 57 then some (b.toNat - 48)
  else if 97 ≤ b ∧ b ≤ 102 then some (b.toNat - 87)
  else if 65 ≤ b ∧ b ≤ 70 then some (b.toNat - 55)
  else none

/-- The bytes skipped between digits: space, carriage return, line feed, tab. -/
def isHexBlank (b : UInt8) : Bool := b == 32 || b == 13 || b == 10 || b == 9

/-- The character a single byte stands for when read as Latin-1. -/
def latin1 (b : UInt8) : Char := Char.ofNat b.toNat

/-- Emits bytes from hexadecimal digit bytes: `count` digits of the current byte were read,
`high` is the last digit read, `index` is the position of the next byte in the whole string. -/
def emitBytes : List UInt8 → Nat → Nat → Nat → List Nat → Except DecodeError (List Nat)
  | [], _, _, _, out => .ok out.reverse
  | b :: rest, index, count, high, out =>
    if isHexBlank b then emitBytes rest (index + 1) count high out
    else match hexNibble? b with
      | none => .error (.custom ("invalid hex character: " ++ String.singleton (latin1 b) ++
          ", at " ++ Nat.repr index))
      | some d =>
        if count + 1 = 2 then emitBytes rest (index + 1) 0 d ((16 * high + d) :: out)
        else emitBytes rest (index + 1) (count + 1) d out

/-- The bytes a hexadecimal string gives, under the length rule of `size`. -/
def readHexBytes (size : HexSize) (s : String) : Except DecodeError (List Nat) :=
  let all := s.toUTF8.toList
  let (body, offset) := match all with
    | 48 :: 120 :: rest => (rest, 2)
    | _ => (all, 0)
  if !size.accepts body.length then .error (.invalidLength body.length size.expectation)
  else emitBytes body offset (body.length % 2) 0 []

/-- The big-endian value of a list of bytes. -/
def bigEndian (bytes : List Nat) : Nat := bytes.foldl (fun acc b => 256 * acc + b) 0

namespace Decoder

/-- The emitted bytes of a hexadecimal string field. -/
def hexBytes (size : HexSize) : Decoder (List Nat)
  | .str s => readHexBytes size s
  | j => .error (refuse size.expectation j)

/-- A quantity of up to `bytes` bytes. -/
def quantity (bytes : Nat) : Decoder Nat := fun j => (hexBytes (.upTo bytes) j).map bigEndian

/-- A hash of exactly `bytes` bytes, filled from its first byte. -/
def hash (bytes : Nat) : Decoder Nat := fun j =>
  (hexBytes (.exactly bytes) j).map fun bs => bigEndian (bs ++ List.replicate (bytes - bs.length) 0)

end Decoder

end ChainWatch
