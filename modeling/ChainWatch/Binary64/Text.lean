import ChainWatch.Binary64.Shortest

/-!
# Binary64 numbers as text

A number is written with its shortest digits (`Binary64.shortest`). Where the point goes is the
format's decision, kept in one record, `Binary64.Layout`: positional notation for a decimal
exponent in a window, scientific notation outside it, with an exponent that always carries its
sign. `Layout.standard` is the one layout of this library, shared by JSON output and by the
texts of decoding errors.
-/

namespace ChainWatch

namespace Binary64

/-- How the shortest digits of a number are laid out. With the value written `0.d₁d₂… × 10 ^ p`,
positional notation is used when `positionalAbove < p ≤ positionalUpTo`. -/
structure Layout where
  positionalAbove : Int
  positionalUpTo : Int
  /-- The text between the digits and the exponent. -/
  exponentMark : String
  /-- Whether a non-negative exponent is written with a plus sign. -/
  plusSign : Bool

/-- Positional from `1e-5` up to below `1e16`, an integral value ending in `.0`, otherwise
one digit before the point and an exponent such as `e+19` or `e-7`. -/
def Layout.standard : Layout :=
  { positionalAbove := -5, positionalUpTo := 16, exponentMark := "e", plusSign := true }

/-- `n` zero digits. -/
def zeros (n : Nat) : String := String.ofList (List.replicate n '0')

/-- The text of digits `d` with value `d * 10 ^ k`, laid out by `l`. -/
def Layout.digits (l : Layout) (d : Nat) (k : Int) : String :=
  let s := (Nat.repr d).toList
  let len : Int := s.length
  let p := len + k
  if l.positionalAbove < p ∧ p ≤ l.positionalUpTo then
    if 0 ≤ k then String.ofList s ++ zeros k.toNat ++ ".0"
    else if 0 < p then
      String.ofList (s.take p.toNat) ++ "." ++ String.ofList (s.drop p.toNat)
    else "0." ++ zeros (-p).toNat ++ String.ofList s
  else
    let mantissa := match s with
      | [c] => String.ofList [c]
      | c :: rest => String.ofList [c] ++ "." ++ String.ofList rest
      | [] => "0"
    let x := p - 1
    let sign := if x < 0 then "-" else if l.plusSign then "+" else ""
    mantissa ++ l.exponentMark ++ sign ++ Nat.repr x.natAbs

/-- The text of a number: its sign, then its shortest digits laid out by `l`; zero is `0.0`.
Infinities and NaN, which no value of this library holds, are written as JSON's `null`. -/
def Layout.render (l : Layout) (x : Binary64) : String :=
  let sign := if x.isNegative then "-" else ""
  match x.finite? with
  | none => "null"
  | some (_, 0, _) => sign ++ "0.0"
  | some _ =>
    match x.shortest with
    | some (d, k) => sign ++ l.digits d k
    | none => sign ++ "0.0"

/-- The standard text of a number. -/
def toText (x : Binary64) : String := Layout.standard.render x

end Binary64

end ChainWatch
