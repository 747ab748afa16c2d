import ChainWatch.Binary64.Basic

/-!
# Shortest decimal digits of a binary64 number

A finite positive number `m * 2 ^ e` is read back from any decimal inside its rounding interval:
the reals nearer to it than to either neighbour, the two ends included when `m` is even. The
digits chosen here are those of the decimal with the fewest significant digits inside that
interval, and of two such decimals the nearer one.

For each count `n` of digits from one to seventeen the search looks at the two multiples of
`10 ^ k` around the value, where `k` puts `n` digits before the point; if a decimal with `n`
digits lies in the interval then one of these two does. Seventeen digits always suffice.

Main definition: `Binary64.shortest`, giving digits `d` and exponent `k` with value `d * 10 ^ k`.
-/

namespace ChainWatch

namespace Binary64

/-- Whether `num / den ≥ 10 ^ k`. -/
def atLeastPow10 (num den : Nat) (k : Int) : Bool :=
  if 0 ≤ k then den * Nat.pow 10 k.toNat ≤ num else den ≤ num * Nat.pow 10 (-k).toNat

/-- Moves an estimate `k` of the decimal exponent of `num / den` until
`10 ^ k ≤ num / den < 10 ^ (k + 1)`, at most `fuel` times. -/
def settleLog10 : Nat → Nat → Nat → Int → Int
  | 0, _, _, k => k
  | fuel + 1, num, den, k =>
    if !atLeastPow10 num den k then settleLog10 fuel num den (k - 1)
    else if atLeastPow10 num den (k + 1) then settleLog10 fuel num den (k + 1)
    else k

/-- The exponent `k` with `10 ^ k ≤ num / den < 10 ^ (k + 1)`, for positive `num` and `den`:
an estimate from the bit lengths, off by at most one, then settled exactly. -/
def floorLog10 (num den : Nat) : Int :=
  let bits : Int := (num.log2 : Int) - (den.log2 : Int)
  settleLog10 8 num den ((bits * 30103).fdiv 100000)

/-- `n * 2 ^ a * 10 ^ b` for non-negative `a` and `b`. -/
def scaleUp (n : Nat) (a b : Int) : Nat := n * Nat.pow 2 a.toNat * Nat.pow 10 b.toNat

/-- The rounding interval of `m * 2 ^ e` and a candidate, all scaled by one common factor
`2 ^ a * 10 ^ b` to natural numbers: the value, the lower end, the upper end. `closer` says that
the lower neighbour is half as far as the upper one, at the bottom of a binade. -/
structure Window where
  value : Nat
  low : Nat
  high : Nat
  inclusive : Bool

/-- The interval of `m * 2 ^ e` scaled by `2 ^ a * 10 ^ b`, where `a = max 0 (2 - e)`. -/
def window (m : Nat) (e : Int) (closer : Bool) (b : Int) : Window :=
  let a : Int := max 0 (2 - e)
  { value := scaleUp m (e + a) b
    low := if closer then scaleUp (4 * m - 1) (e - 2 + a) b else scaleUp (2 * m - 1) (e - 1 + a) b
    high := scaleUp (2 * m + 1) (e - 1 + a) b
    inclusive := m % 2 == 0 }

/-- Whether a scaled candidate lies in the window. -/
def Window.contains (w : Window) (x : Nat) : Bool :=
  if w.inclusive then w.low ≤ x && x ≤ w.high else w.low < x && x < w.high

/-- The decimal `c * 10 ^ k` with `n` significant digits nearest to `m * 2 ^ e` that reads back
to it, if there is one: of the two multiples of `10 ^ k` around the value, those inside the
interval, the nearer winning and a tie going to the even one. -/
def candidate (m : Nat) (e : Int) (closer : Bool) (lg : Int) (n : Nat) : Option (Nat × Int) :=
  let k : Int := lg - (n : Int) + 1
  let b : Int := max 0 (-k)
  let a : Int := max 0 (2 - e)
  let w := window m e closer b
  let unit := scaleUp 1 a (k + b)
  let c0 := w.value / unit
  let x0 := c0 * unit
  let x1 := (c0 + 1) * unit
  match w.contains x0, w.contains x1 with
  | true, true =>
    if 2 * w.value < x0 + x1 then some (c0, k)
    else if 2 * w.value > x0 + x1 then some (c0 + 1, k)
    else if c0 % 2 == 0 then some (c0, k) else some (c0 + 1, k)
  | true, false => some (c0, k)
  | false, true => some (c0 + 1, k)
  | false, false => none

/-- Drops trailing zero digits, raising the exponent for each, at most `fuel` times. -/
def trimZeros : Nat → Nat × Int → Nat × Int
  | 0, p => p
  | fuel + 1, (c, k) => if c ≠ 0 ∧ c % 10 = 0 then trimZeros fuel (c / 10, k + 1) else (c, k)

/-- The shortest digits of the positive number `m * 2 ^ e` as `(d, k)` with value `d * 10 ^ k`
and no trailing zero in `d`; `closer` marks a significand at the bottom of a binade. -/
def shortestOf (m : Nat) (e : Int) (closer : Bool) : Nat × Int :=
  let (num, den) := if 0 ≤ e then (m * Nat.pow 2 e.toNat, 1) else (m, Nat.pow 2 (-e).toNat)
  let lg := floorLog10 num den
  let found := (List.range 17).findSome? fun i => candidate m e closer lg (i + 1)
  trimZeros 20 (found.getD (m, 0))

/-- The shortest digits of the magnitude of a finite nonzero number, `(d, k)` with value
`d * 10 ^ k`; `none` for zero, an infinity or a NaN. -/
def shortest (x : Binary64) : Option (Nat × Int) :=
  match x.finite? with
  | some (_, 0, _) => none
  | some (_, m, e) =>
    shortestOf m e (x.fractionField == 0 && x.exponentField > 1)
  | none => none

end Binary64

end ChainWatch
