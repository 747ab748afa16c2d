import ChainWatch.Url.Text

/-!
# IP addresses in hosts

A host that ends in a number is an IPv4 address, written in one to four parts separated by
dots, each part decimal, octal (a leading `0`) or hexadecimal (a leading `0x`); the last part
fills all the bytes the earlier parts leave. `ipv4Parse` reads it and `ipv4Text` writes the
usual dotted form.

A host in brackets is an IPv6 address: eight 16-bit pieces in hexadecimal, one run of which may
be left out as `::`, the last two possibly written as an IPv4 address. `ipv6Parse` reads it and
`ipv6Text` writes it in lowercase with the longest run of two or more zero pieces left out,
the first such run on a tie.
-/

namespace ChainWatch

/-! ### IPv4 -/

/-- The value of a part of an IPv4 address: `none` for a text that is not a number, `some none`
for a number of `2 ^ 32` or more. -/
def ipv4Number (part : List Char) : Option (Option Nat) :=
  if part.isEmpty then none
  else
    let (radix, digits) := match part with
      | '0' :: 'x' :: rest => (16, rest)
      | '0' :: 'X' :: rest => (16, rest)
      | '0' :: rest@(_ :: _) => (8, rest)
      | _ => (10, part)
    let value (c : Char) : Option Nat :=
      if isAsciiDigit c then some (c.toNat - 48)
      else if 'a' ≤ c && c ≤ 'f' then some (c.toNat - 87)
      else if 'A' ≤ c && c ≤ 'F' then some (c.toNat - 55)
      else none
    match digits.mapM fun c => (value c).filter (· < radix) with
    | none => none
    | some ds =>
      let n := ds.foldl (fun acc d => radix * acc + d) 0
      some (if n < Nat.pow 2 32 then some n else none)

/-- Whether a host ends in a number: its last part, or the one before a final empty part, is all
digits or reads as an IPv4 number. -/
def endsInNumber (host : List Char) : Bool :=
  let parts := (splitOnChar '.' host).reverse
  let last := match parts with
    | [] :: before :: _ => some before
    | [] :: [] => none
    | p :: _ => some p
    | [] => none
  match last with
  | none => false
  | some p => (!p.isEmpty && p.all isAsciiDigit) || (ipv4Number p).isSome

/-- The address an IPv4 host stands for. -/
def ipv4Parse (host : List Char) : Except UrlError Nat := do
  let parts := splitOnChar '.' host
  let parts := if parts.getLast? = some [] then parts.dropLast else parts
  if parts.length > 4 then throw .invalidIpv4
  let numbers ← parts.mapM fun p => match ipv4Number p with
    | some (some n) => pure n
    | _ => throw .invalidIpv4
  match numbers.reverse with
  | [] => throw .invalidIpv4
  | last :: earlier =>
    if last ≥ Nat.pow 256 (4 - earlier.length) then throw .invalidIpv4
    if earlier.any (· > 255) then throw .invalidIpv4
    pure ((earlier.reverse.zipIdx).foldl (fun acc (n, i) => acc + n * Nat.pow 256 (3 - i)) last)

/-- An IPv4 address in dotted decimal. -/
def ipv4Text (a : Nat) : String :=
  ".".intercalate ([3, 2, 1, 0].map fun i => Nat.repr (a / Nat.pow 256 i % 256))

/-! ### IPv6 -/

/-- Reads up to `count` hexadecimal digits: their value, how many there were, and the rest. -/
def hexRun : Nat → List Char → Nat × Nat × List Char
  | 0, cs => (0, 0, cs)
  | n + 1, c :: cs =>
    match hexByteValue c.toNat with
    | some d =>
      let r := hexRun n cs
      (d * Nat.pow 16 r.2.1 + r.1, r.2.1 + 1, r.2.2)
    | none => (0, 0, c :: cs)
  | _ + 1, [] => (0, 0, [])

/-- Reads a decimal byte of an embedded IPv4 address: its value and the rest, refusing a value
over 255 and a leading zero before more digits. -/
def ipv4Piece : Option Nat → List Char → Except UrlError (Option Nat × List Char)
  | acc, c :: cs =>
    if isAsciiDigit c then
      let d := c.toNat - 48
      match acc with
      | none => ipv4Piece (some d) cs
      | some 0 => throw .invalidIpv6
      | some v => if v * 10 + d > 255 then throw .invalidIpv6 else ipv4Piece (some (v * 10 + d)) cs
    else pure (acc, c :: cs)
  | acc, [] => pure (acc, [])

/-- Reads the embedded IPv4 part into the pieces from `index` on, after `seen` numbers. -/
def ipv4Tail (pieces : List Nat) (index seen : Nat) : List Char → Except UrlError (List Nat × Nat)
  | [] => if seen = 4 then pure (pieces, index) else throw .invalidIpv6
  | c :: cs => do
    let input ← if seen = 0 then pure (c :: cs)
      else if seen < 4 ∧ c = '.' then pure cs
      else throw .invalidIpv6
    let (piece, rest) ← ipv4Piece none input
    match piece with
    | none => throw .invalidIpv6
    | some v =>
      let pieces := pieces.set index (pieces.getD index 0 * 256 + v)
      let seen := seen + 1
      let index := if seen = 2 ∨ seen = 4 then index + 1 else index
      if _ : rest.length < cs.length + 1 then ipv4Tail pieces index seen rest
      else throw .invalidIpv6
termination_by input => input.length
decreasing_by all_goals (simp_wf; omega)

theorem hexRun_length : ∀ (n : Nat) (cs : List Char), (hexRun n cs).2.2.length ≤ cs.length
  | 0, _ => by simp [hexRun]
  | _ + 1, [] => by simp [hexRun]
  | n + 1, c :: cs => by
    simp only [hexRun]
    split
    · have := hexRun_length n cs; simp only [List.length_cons]; omega
    · simp

/-- The pieces of an IPv6 address: `index` is the next piece, `compress` where `::` stood. -/
def ipv6Pieces (pieces : List Nat) (index : Nat) (compress : Option Nat) :
    List Char → Except UrlError (List Nat × Nat × Option Nat)
  | [] => pure (pieces, index, compress)
  | c :: cs =>
    if index = 8 then throw .invalidIpv6
    else if c = ':' then
      if compress.isSome then throw .invalidIpv6
      else ipv6Pieces pieces (index + 1) (some (index + 1)) cs
    else
      let r := hexRun 4 (c :: cs)
      match hr : r.2.2 with
      | [] => pure (pieces.set index r.1, index + 1, compress)
      | '.' :: _ =>
        if r.2.1 = 0 ∨ index > 6 then throw .invalidIpv6
        else do
          let (pieces, index) ← ipv4Tail pieces index 0 (c :: cs)
          pure (pieces, index, compress)
      | ':' :: more =>
        if more.isEmpty then throw .invalidIpv6
        else
          have : more.length < cs.length + 1 := by
            have := hexRun_length 4 (c :: cs)
            rw [hr] at this; simp only [List.length_cons] at this; omega
          ipv6Pieces (pieces.set index r.1) (index + 1) compress more
      | _ => throw .invalidIpv6
termination_by input => input.length
decreasing_by all_goals (simp_wf <;> omega)

/-- Moves the pieces after a `::` at `compress` to the end, `swaps` of them from `last` down. -/
def moveToEnd (compress : Nat) : Nat → Nat → List Nat → List Nat
  | 0, _, ps => ps
  | swaps + 1, last, ps =>
    let a := ps.getD last 0
    let b := ps.getD (compress + swaps) 0
    moveToEnd compress swaps (last - 1) ((ps.set last b).set (compress + swaps) a)

/-- The eight pieces of an IPv6 address written without its brackets. -/
def ipv6Parse (text : List Char) : Except UrlError (List Nat) := do
  if text.length < 2 then throw .invalidIpv6
  let (pieces, index, compress, rest) ← match text with
    | ':' :: ':' :: rest => pure (List.replicate 8 0, 1, some 1, rest)
    | ':' :: _ => throw .invalidIpv6
    | _ => pure (List.replicate 8 0, 0, none, text)
  let (pieces, index, compress) ← ipv6Pieces pieces index compress rest
  match compress with
  | some at0 => pure (moveToEnd at0 (index - at0) 7 pieces)
  | none => if index = 8 then pure pieces else throw .invalidIpv6

/-- The longest run of two or more zero pieces: where it starts and where it ends. -/
def longestZeroRun (pieces : List Nat) : Option (Nat × Nat) :=
  let step := fun (acc : Option (Nat × Nat) × Option Nat) (p : Nat × Nat) =>
    let (best, start) := acc
    let (v, i) := p
    if v = 0 then (best, some (start.getD i))
    else match start with
      | some s =>
        let better := match best with
          | some (bs, be) => if i - s > be - bs then some (s, i) else some (bs, be)
          | none => some (s, i)
        (better, none)
      | none => (best, none)
  let (best, start) := pieces.zipIdx.foldl step (none, none)
  let best := match start with
    | some s => match best with
      | some (bs, be) => if 8 - s > be - bs then some (s, 8) else some (bs, be)
      | none => some (s, 8)
    | none => best
  best.filter fun (s, e) => e - s ≥ 2

/-- An IPv6 address without brackets, in lowercase hexadecimal, its longest zero run left out. -/
def ipv6Text (pieces : List Nat) : String :=
  let hex (n : Nat) : String := String.ofList (Nat.toDigits 16 n)
  match longestZeroRun pieces with
  | none => ":".intercalate (pieces.map hex)
  | some (s, e) =>
    ":".intercalate ((pieces.take s).map hex) ++ "::" ++ ":".intercalate ((pieces.drop e).map hex)

end ChainWatch
