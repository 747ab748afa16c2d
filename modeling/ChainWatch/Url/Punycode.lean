/-!
# Punycode

The bootstring encoding that writes a label of an internationalised domain name in ASCII. The
ASCII characters of the label come first, then, if there were any, a `-`, then the other code
points in order of value, each as the distance from the previous one in a variable-length
base-36 number whose digit thresholds follow an adaptive bias.

`Punycode.encode` writes a label; `Punycode.decode` reads one back and fails on a digit that is
not a letter or a digit, on an input that ends inside a number, on a basic part that is not ASCII,
on a code point that is not a character, and where a value passes `2 ^ 32`, the width the
encoding is computed in.

Every loop has its own measure: `adaptLoop` divides `delta`, `encodeDigits` shrinks `q` (the
threshold is at least one), and `decodeDigits` and `decodeLoop` eat their input.
-/

namespace ChainWatch

namespace Punycode

/-- The value bound of the arithmetic of the encoding. -/
def limit : Nat := Nat.pow 2 32

/-- The character of a digit: `a` to `z` for 0 to 25, `0` to `9` for 26 to 35. -/
def digitChar (d : Nat) : Char :=
  if d < 26 then Char.ofNat (97 + d) else Char.ofNat (22 + d)

/-- The value of a digit character, in either case. -/
def digitValue (c : Char) : Option Nat :=
  let n := c.toNat
  if 97 ≤ n ∧ n ≤ 122 then some (n - 97)
  else if 65 ≤ n ∧ n ≤ 90 then some (n - 65)
  else if 48 ≤ n ∧ n ≤ 57 then some (n - 22)
  else none

/-- The threshold of the digit at position `k` under `bias`, from 1 to 26. -/
def threshold (k bias : Nat) : Nat :=
  if k ≤ bias then 1 else if bias + 26 ≤ k then 26 else k - bias

theorem threshold_pos (k bias : Nat) : 1 ≤ threshold k bias := by
  unfold threshold; split <;> (try split) <;> omega

theorem threshold_le (k bias : Nat) : threshold k bias ≤ 26 := by
  unfold threshold; split <;> (try split) <;> omega

/-- Divides `delta` by 35 until it is at most 455, counting 36 for each division. -/
def adaptLoop (delta k : Nat) : Nat × Nat :=
  if 455 < delta then adaptLoop (delta / 35) (k + 36) else (delta, k)
termination_by delta
decreasing_by exact Nat.div_lt_self (by omega) (by omega)

/-- The bias after a code point, from the distance written and the count of code points so far. -/
def adapt (delta numPoints : Nat) (first : Bool) : Nat :=
  let d := if first then delta / 700 else delta / 2
  let (d, k) := adaptLoop (d + d / numPoints) 0
  k + 36 * d / (d + 38)

/-! ### Writing -/

/-- The digits of the number `q`, from position `k`. -/
def encodeDigits (bias k q : Nat) : List Char :=
  let t := threshold k bias
  if q < t then [digitChar q]
  else digitChar (t + (q - t) % (36 - t)) :: encodeDigits bias (k + 36) ((q - t) / (36 - t))
termination_by q
decreasing_by
  have := threshold_pos k bias
  have := threshold_le k bias
  calc (q - threshold k bias) / (36 - threshold k bias) ≤ q - threshold k bias := Nat.div_le_self _ _
    _ < q := by omega

/-- The state of the writer: the digits so far, the distance, the bias and how many code points
are written. -/
structure Writer where
  out : List Char
  delta : Nat
  bias : Nat
  written : Nat

/-- Goes past one code point `c` of the label while writing the code points of value `m`;
`basic` is the count of ASCII characters. -/
def Writer.visit (basic m : Nat) (st : Writer) (c : Nat) : Writer :=
  if c < m then { st with delta := st.delta + 1 }
  else if c = m then
    { out := st.out ++ encodeDigits st.bias 36 st.delta, delta := 0,
      bias := adapt st.delta (st.written + 1) (st.written == basic), written := st.written + 1 }
  else st

/-- Writes the code points of the values of `todo`, in increasing order, from value `n`. -/
def encodeFrom (label : List Nat) (basic : Nat) : List Nat → Nat → Writer → Writer
  | [], _, st => st
  | m :: rest, n, st =>
    let st := label.foldl (Writer.visit basic m) { st with delta := st.delta + (m - n) * (st.written + 1) }
    encodeFrom label basic rest (m + 1) { st with delta := st.delta + 1 }

/-- The distinct values of a list, in increasing order. -/
def sortedDistinct (xs : List Nat) : List Nat :=
  (xs.foldl (fun acc x => if acc.contains x then acc else x :: acc) []).mergeSort

/-- The Punycode text of a label given by its code points. A label so long that the distances
could pass the bound of the arithmetic is refused up front. -/
def encode (label : List Nat) : Option (List Char) :=
  if limit ≤ (label.length + 1) * (0x10FFFF - 0x80) then none
  else
    let basic := label.filter (· < 0x80)
    let st := encodeFrom label basic.length (sortedDistinct (label.filter (0x80 ≤ ·))) 0x80
      { out := [], delta := 0, bias := 72, written := basic.length }
    some (basic.map Char.ofNat ++ (if basic.isEmpty then [] else ['-']) ++ st.out)

/-! ### Reading -/

/-- Reads one number from digit position `k` with weight `w`, added to `i`: the new `i` and the
rest of the input. -/
def decodeDigits (bias : Nat) : List Char → Nat → Nat → Nat → Option (Nat × List Char)
  | [], _, _, _ => none
  | c :: rest, k, w, i => do
    let d ← digitValue c
    let i := i + d * w
    if limit ≤ d * w ∨ limit ≤ i then none
    let t := threshold k bias
    if d < t then some (i, rest)
    else
      let w := w * (36 - t)
      if limit ≤ w then none
      decodeDigits bias rest (k + 36) w i

theorem decodeDigits_shorter (bias : Nat) :
    ∀ (l : List Char) (k w i : Nat) (r : Nat × List Char),
      decodeDigits bias l k w i = some r → r.2.length < l.length
  | [], _, _, _, _, h => by simp [decodeDigits] at h
  | c :: rest, k, w, i, r, h => by
    simp only [decodeDigits, Option.bind_eq_bind] at h
    cases hd : digitValue c with
    | none => simp [hd] at h
    | some d =>
      simp only [hd, Option.bind_some] at h
      split at h
      · simp at h
      · split at h
        · cases h; simp
        · split at h
          · simp at h
          · have := decodeDigits_shorter bias rest _ _ _ r h
            simp only [List.length_cons]; omega

/-- Inserts the code points of the extended part into `out`, from value `n` and position `i`. -/
def decodeLoop (bias n i : Nat) (out : List Nat) : List Char → Option (List Nat)
  | [] => some out
  | c :: rest =>
    match h : decodeDigits bias (c :: rest) 36 1 i with
    | none => none
    | some (i', more) =>
      let count := out.length + 1
      let n' := n + i' / count
      let slot := i' % count
      if limit ≤ n' ∨ (0xD800 ≤ n' ∧ n' ≤ 0xDFFF) ∨ 0x110000 ≤ n' then none
      else decodeLoop (adapt (i' - i) count (i == 0)) n' (slot + 1) (out.insertIdx slot n') more
termination_by l => l.length
decreasing_by
  have := decodeDigits_shorter bias (c :: rest) 36 1 i (i', more) h
  simpa using this

/-- The basic part before the last `-` and the extended part after it; all is extended when there
is no `-`. -/
def splitLastDash (input : List Char) : List Char × List Char :=
  match input.reverse.span (· != '-') with
  | (tail, []) => ([], tail.reverse)
  | (tail, _ :: head) => (head.reverse, tail.reverse)

/-- The code points of a Punycode text, if it is one. -/
def decode (input : List Char) : Option (List Nat) :=
  let (basic, extended) := splitLastDash input
  if basic.any (0x80 ≤ ·.toNat) then none
  else decodeLoop 72 0x80 0 (basic.map Char.toNat) extended

end Punycode

end ChainWatch
