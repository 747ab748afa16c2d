/-!
# Binary64 numbers

A binary64 floating-point number is kept by its 64-bit pattern. Every value this library computes
or reads is built from an exact ratio of natural numbers by `Binary64.ofRatio`, which rounds to
the nearest representable number, a tie going to the even significand; so no step depends on a
platform's floating-point unit and every result has a definition in `Nat`.

Main definitions: `Binary64.ofRatio`, `Binary64.ofNat`, `Binary64.div`, and the view
`Binary64.finite?` that splits a finite pattern into sign, significand and binary exponent.
-/

namespace ChainWatch

/-- A binary64 floating-point number, by its bit pattern. -/
structure Binary64 where
  /-- The 64-bit pattern: sign, eleven exponent bits, fifty-two fraction bits. -/
  bits : UInt64
  deriving BEq, DecidableEq, Inhabited

namespace Binary64

/-- Fifty-two fraction bits: the implicit leading bit of a normal significand is `2 ^ 52`. -/
def hidden : Nat := Nat.pow 2 52

/-- The least binary exponent of a significand, that of the subnormal numbers. -/
def minExponent : Int := -1074

/-- The greatest binary exponent of a significand of a finite number. -/
def maxExponent : Int := 971

/-- Positive zero. -/
def zero : Binary64 := ⟨0⟩

/-- One. -/
def one : Binary64 := ⟨0x3FF0000000000000⟩

/-- Positive infinity. -/
def infinity : Binary64 := ⟨0x7FF0000000000000⟩

/-- The same number with the sign bit set. -/
def negate (x : Binary64) : Binary64 := ⟨x.bits ^^^ 0x8000000000000000⟩

/-- Whether the sign bit is set. -/
def isNegative (x : Binary64) : Bool := x.bits >>> 63 == 1

/-- The eleven exponent bits. -/
def exponentField (x : Binary64) : Nat := ((x.bits >>> 52) &&& 0x7FF).toNat

/-- The fifty-two fraction bits. -/
def fractionField (x : Binary64) : Nat := (x.bits &&& 0xFFFFFFFFFFFFF).toNat

/-- A finite number as its sign, its significand `m` and its exponent `e`, the value being
`m * 2 ^ e`; `none` for an infinity or a NaN. -/
def finite? (x : Binary64) : Option (Bool × Nat × Int) :=
  let f := x.fractionField
  match x.exponentField with
  | 0 => some (x.isNegative, f, minExponent)
  | 2047 => none
  | b => some (x.isNegative, f + hidden, (b : Int) - 1075)

/-- `num / (den * 2 ^ e)` as a numerator and a denominator. -/
def scaled (num den : Nat) (e : Int) : Nat × Nat :=
  if 0 ≤ e then (num, den * Nat.pow 2 e.toNat) else (num * Nat.pow 2 (-e).toNat, den)

/-- `num / den` rounded to an integer, a tie going to the even one. -/
def roundHalfEven (num den : Nat) : Nat :=
  let q := num / den
  let r := num % den
  if 2 * r > den ∨ (2 * r = den ∧ q % 2 = 1) then q + 1 else q

/-- The binary exponent of the significand of the nearest number to the positive ratio
`num / den`, before rounding: the one that puts the quotient in `[2 ^ 52, 2 ^ 53)`, or the
subnormal exponent where that one would lie below it. -/
def exponentOf (num den : Nat) : Int :=
  let e0 : Int := (num.log2 : Int) - (den.log2 : Int) - 52
  let (p, q) := scaled num den e0
  let e1 := if p / q < hidden then e0 - 1 else e0
  max e1 minExponent

/-- The pattern of a significand `m` and exponent `e` after rounding, with `m < 2 ^ 53`:
normal when `m ≥ 2 ^ 52`, subnormal otherwise, infinite past the greatest exponent. -/
def assemble (m : Nat) (e : Int) : Binary64 :=
  if e > maxExponent then infinity
  else if hidden ≤ m then
    ⟨UInt64.ofNat ((e + 1075).toNat * hidden + (m - hidden))⟩
  else ⟨UInt64.ofNat m⟩

/-- The nearest binary64 number to `num / den`, a tie going to the even significand; negative
when `negative` holds. A zero numerator gives a zero of that sign. -/
def ofRatio (negative : Bool) (num den : Nat) : Binary64 :=
  let magnitude :=
    if num = 0 ∨ den = 0 then zero
    else
      let e := exponentOf num den
      let (p, q) := scaled num den e
      let m := roundHalfEven p q
      -- Rounding up can carry into the next binade.
      if m = 2 * hidden then assemble hidden (e + 1) else assemble m e
  if negative then magnitude.negate else magnitude

/-- The nearest binary64 number to a natural number. -/
def ofNat (n : Nat) : Binary64 := ofRatio false n 1

/-- The quotient of two finite non-negative numbers, rounded to nearest; zero when the divisor
is zero or either number is not finite. -/
def div (x y : Binary64) : Binary64 :=
  match x.finite?, y.finite? with
  | some (sx, mx, ex), some (sy, my, ey) =>
    if my = 0 then zero
    else
      let (a, b) := if ey ≤ ex then (mx * Nat.pow 2 (ex - ey).toNat, my)
        else (mx, my * Nat.pow 2 (ey - ex).toNat)
      ofRatio (sx != sy) a b
  | _, _ => zero

/-- The exact value of a finite number as a sign, a numerator and a denominator. -/
def toRatio? (x : Binary64) : Option (Bool × Nat × Nat) :=
  x.finite?.map fun (s, m, e) =>
    if 0 ≤ e then (s, m * Nat.pow 2 e.toNat, 1) else (s, m, Nat.pow 2 (-e).toNat)

/-- Whether a number is a zero of either sign. -/
def isZero (x : Binary64) : Bool := x.bits &&& 0x7FFFFFFFFFFFFFFF == 0

/-- Whether a number is finite. -/
def isFinite (x : Binary64) : Bool := x.finite?.isSome

/-- The product of two finite numbers, rounded to nearest: an infinity when it is too large, a
zero with the sign of the product when it is too small. A non-finite operand gives an infinity;
the callers multiply finite numbers only. -/
def mul (x y : Binary64) : Binary64 :=
  match x.toRatio?, y.toRatio? with
  | some (sx, a, b), some (sy, c, d) => ofRatio (sx != sy) (a * c) (b * d)
  | _, _ => infinity

/-- The sum of two finite numbers, rounded to nearest; an exact zero is negative only when both
operands are. A non-finite operand gives an infinity; the callers add finite numbers only. -/
def add (x y : Binary64) : Binary64 :=
  match x.toRatio?, y.toRatio? with
  | some (sx, a, b), some (sy, c, d) =>
    let n : Int := (if sx then -1 else 1) * ((a * d : Nat) : Int) + (if sy then -1 else 1) * ((c * b : Nat) : Int)
    if n = 0 then (if sx && sy then zero.negate else zero)
    else ofRatio (n < 0) n.natAbs (b * d)
  | _, _ => infinity

/-- The binary64 number nearest to `10 ^ k`. -/
def powerOfTen (k : Nat) : Binary64 := ofNat (Nat.pow 10 k)

/-- Scales a finite non-negative number by `10 ^ exponent` with one rounded multiplication or
division by the nearest binary64 power of ten, as a reader of decimal text that keeps at most
64 bits of digits does: past `10 ^ 308` it first divides by `10 ^ 308` as often as needed,
stopping early at zero. `none` when the result, or a needed power of ten, is too large. -/
def scaleByTen (f : Binary64) (exponent : Int) : Option Binary64 :=
  if exponent.natAbs ≤ 308 then
    if 0 ≤ exponent then
      let g := f.mul (powerOfTen exponent.toNat)
      if g.isFinite then some g else none
    else some (f.div (powerOfTen exponent.natAbs))
  else if f.isZero then some f
  else if 0 ≤ exponent then none
  else scaleByTen (f.div (powerOfTen 308)) (exponent + 308)
termination_by exponent.natAbs
decreasing_by omega

/-- Order of two finite non-negative numbers by value. -/
def le (x y : Binary64) : Bool :=
  match x.toRatio?, y.toRatio? with
  | some (_, a, b), some (_, c, d) => a * d ≤ c * b
  | _, _ => false

/-- Strict order of two finite non-negative numbers by value. -/
def lt (x y : Binary64) : Bool := !le y x

/-- The lesser of two non-negative numbers by value. -/
def min (x y : Binary64) : Binary64 := if le x y then x else y

end Binary64

end ChainWatch
