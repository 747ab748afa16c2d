import ChainWatch.Chain.Error

/-!
# Addresses

An address is a 20-byte number, written `0x` and forty lowercase hexadecimal digits
(`Address.toText`).

`Address.parse` is the strict reader of a configured address: blanks around the text are dropped
(the Unicode White_Space characters), then one `0x`; exactly forty bytes must remain. These are
read as digit pairs: a blank between digits is skipped, a second `0x` is dropped, a character
that is not a digit is refused with its position, and a text that does not give exactly twenty
bytes is refused. `Address.parseList` reads a comma-separated list, dropping empty pieces and
reporting the first malformed one.
-/

namespace ChainWatch

/-- A 20-byte address. -/
structure Address where
  val : Nat
  lt : val < Nat.pow 2 160
  deriving DecidableEq

namespace Address

/-- The address of the low 160 bits of a number. -/
def ofNat (n : Nat) : Address := ⟨n % Nat.pow 2 160, Nat.mod_lt _ (by decide)⟩

instance : Inhabited Address := ⟨ofNat 0⟩

/-- The address whose twenty bytes all equal `b`. -/
def repeatByte (b : Nat) : Address :=
  ofNat ((List.replicate 20 (b % 256)).foldl (fun acc x => 256 * acc + x) 0)

/-- The `k`-th hexadecimal digit of a number, counting from the least significant. -/
def hexDigitAt (n k : Nat) : Char := "0123456789abcdef".toList.getD ((n / Nat.pow 16 k) % 16) '0'

/-- `0x` and forty lowercase hexadecimal digits. -/
def toText (a : Address) : String :=
  "0x" ++ String.ofList ((List.range 40).reverse.map (hexDigitAt a.val))

/-- The Unicode White_Space characters, which surround a configured address. -/
def isUnicodeBlank (c : Char) : Bool :=
  let n := c.toNat
  (9 ≤ n && n ≤ 13) || n == 32 || n == 0x85 || n == 0xA0 || n == 0x1680 ||
    (0x2000 ≤ n && n ≤ 0x200A) || n == 0x2028 || n == 0x2029 || n == 0x202F ||
    n == 0x205F || n == 0x3000

/-- A text without its surrounding blanks. -/
def trimBlanks (s : String) : String :=
  String.ofList (((s.toList.dropWhile isUnicodeBlank).reverse.dropWhile isUnicodeBlank).reverse)


/-- Why a text of digit pairs is not twenty bytes. -/
inductive PairError where
  | badChar (c : Char) (position : Nat)
  | badLength

/-- The text of the error. -/
def PairError.message : PairError → String
  | .badChar c i => "Invalid character '" ++ String.singleton c ++ "' at position " ++ Nat.repr i
  | .badLength => "Invalid input length"

/-- The value of a hexadecimal digit character. -/
def digitValue? (c : Char) : Option Nat :=
  if '0' ≤ c ∧ c ≤ '9' then some (c.toNat - '0'.toNat)
  else if 'a' ≤ c ∧ c ≤ 'f' then some (c.toNat - 'a'.toNat + 10)
  else if 'A' ≤ c ∧ c ≤ 'F' then some (c.toNat - 'A'.toNat + 10)
  else none

/-- Whether a character is skipped between digit pairs. -/
def isPairBlank (c : Char) : Bool := c == ' ' || c == '\r' || c == '\n' || c == '\t'

/-- The next byte of a text of digit pairs: skips blanks, refuses a non-digit at its byte
position `pos`, and refuses a text that ends after one digit of a pair. `none` when the text
ends between pairs. -/
def nextByte : List Char → Nat → Option Nat → Option (Except PairError (Nat × List Char × Nat))
  | [], _, none => none
  | [], _, some _ => some (.error .badLength)
  | c :: rest, pos, high =>
    if isPairBlank c then nextByte rest (pos + 1) high
    else match digitValue? c with
      | none => some (.error (.badChar c pos))
      | some d => match high with
        | none => nextByte rest (pos + 1) (some d)
        | some h => some (.ok (16 * h + d, rest, pos + 1))

/-- Reads `n` bytes of digit pairs and requires nothing but blanks after them. -/
def readPairs : Nat → List Char → Nat → Except PairError (List Nat)
  | 0, cs, pos => match nextByte cs pos none with
    | none => .ok []
    | some _ => .error .badLength
  | n + 1, cs, pos => match nextByte cs pos none with
    | none => .error .badLength
    | some (.error e) => .error e
    | some (.ok (b, rest, pos')) => (readPairs n rest pos').map (b :: ·)

/-- The text after an optional `0x`. -/
def dropPrefix (s : String) : String :=
  match s.toList with
  | '0' :: 'x' :: rest => String.ofList rest
  | _ => s

/-- Reads an address as configured: see the module documentation. Errors keep the input as
given. -/
def parse (input : String) : Except ConfigError Address :=
  let hex := dropPrefix (trimBlanks input)
  if hex.utf8ByteSize ≠ 40 then
    .error (.malformedAddress input ("expected 40 hexadecimal characters, got " ++ Nat.repr hex.utf8ByteSize))
  else
    let body := dropPrefix hex
    match readPairs 20 body.toList 0 with
    | .ok bytes => .ok (ofNat (bytes.foldl (fun acc x => 256 * acc + x) 0))
    | .error e => .error (.malformedAddress input e.message)

/-- Reads a comma-separated list of addresses: each piece trimmed, empty pieces dropped, the
first malformed piece reported. -/
def parseList (input : String) : Except ConfigError (List Address) :=
  ((input.splitOn ",").map trimBlanks |>.filter (· ≠ "")).mapM parse

end Address

end ChainWatch
