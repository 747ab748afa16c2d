/-!
# Tables over code points

The character data is kept as text (see `IdnaData`, `NormalData`, `PropertyData`) and read once
into sorted arrays, which are searched by bisection. The text is a list of records separated by
`;`, each a list of fields separated by `,`; code points are hexadecimal numerals.

* `RangeTable α` gives a value to every code point: each range starts at one of `starts` and runs
  up to the next start, and the code points below the first start take `below`.
* `RangeSet` is a set of code points given as inclusive ranges.
* `PointTable α` gives values to single code points, or composite keys, and nothing to others.

All three look a code point up with `countAtMost`, the number of sorted keys at or below it; the
search is a bisection with fuel, and the fuel, one more than the number of keys, is never used up
because each step shrinks the interval.
-/

namespace ChainWatch

namespace Unicode

/-- The value of a hexadecimal digit, `0`–`9`, `A`–`F` or `a`–`f`; zero for another character. -/
def hexDigitValue (c : Char) : Nat :=
  if '0' ≤ c && c ≤ '9' then c.toNat - '0'.toNat
  else if 'A' ≤ c && c ≤ 'F' then c.toNat - 'A'.toNat + 10
  else if 'a' ≤ c && c ≤ 'f' then c.toNat - 'a'.toNat + 10
  else 0

/-- The value of a hexadecimal numeral. -/
def hexValue (s : String) : Nat := s.foldl (fun n c => n * 16 + hexDigitValue c) 0

/-- The numbers of a field: hexadecimal numerals separated by spaces. -/
def hexList (s : String) : List Nat := (s.splitOn " ").map hexValue

/-- The records of a table text, each a list of fields. -/
def records (text : String) : List (List String) := (text.splitOn ";").map (·.splitOn ",")

/-- The number of keys at or below `c` in `keys`, sorted ascending, given that those before `lo`
are at or below it and those from `hi` on are above it; `fuel` bounds the steps. -/
def countAtMostFrom (keys : Array Nat) (c : Nat) : Nat → Nat → Nat → Nat
  | 0, lo, _ => lo
  | fuel + 1, lo, hi =>
    if lo < hi then
      let mid := (lo + hi) / 2
      if keys.getD mid 0 ≤ c then countAtMostFrom keys c fuel (mid + 1) hi
      else countAtMostFrom keys c fuel lo mid
    else lo

/-- The number of keys at or below `c` in `keys`, sorted ascending. -/
def countAtMost (keys : Array Nat) (c : Nat) : Nat :=
  countAtMostFrom keys c (keys.size + 1) 0 keys.size

/-- A value for every code point, by ranges. -/
structure RangeTable (α : Type) where
  /-- The first code point of each range, ascending. -/
  starts : Array Nat
  /-- The value of each range. -/
  values : Array α
  /-- The value of the code points below the first range. -/
  below : α

/-- The value of a code point: that of the last range starting at or below it. -/
def RangeTable.get {α : Type} (t : RangeTable α) (c : Nat) : α :=
  match countAtMost t.starts c with
  | 0 => t.below
  | k + 1 => t.values.getD k t.below

/-- Reads a table whose records are a first code point and a value. -/
def RangeTable.ofText {α : Type} (value : List String → α) (below : α) (text : String) :
    RangeTable α :=
  let rs := records text
  { starts := (rs.map fun r => hexValue (r.headD "")).toArray,
    values := (rs.map fun r => value r.tail).toArray,
    below }

/-- A set of code points, by inclusive ranges. -/
structure RangeSet where
  /-- The least code point of each range, ascending. -/
  lows : Array Nat
  /-- The greatest code point of each range. -/
  highs : Array Nat

/-- Whether a code point lies in one of the ranges: the last one starting at or below it. -/
def RangeSet.contains (s : RangeSet) (c : Nat) : Bool :=
  match countAtMost s.lows c with
  | 0 => false
  | k + 1 => c ≤ s.highs.getD k 0

/-- The set of code points in the given inclusive ranges, ascending and apart. -/
def RangeSet.ofRanges (ranges : List (Nat × Nat)) : RangeSet :=
  { lows := (ranges.map (·.1)).toArray, highs := (ranges.map (·.2)).toArray }

/-- Reads a set whose records are the two ends of a range. -/
def RangeSet.ofText (text : String) : RangeSet :=
  let rs := records text
  { lows := (rs.map fun r => hexValue (r.headD "")).toArray,
    highs := (rs.map fun r => hexValue (r.getD 1 "")).toArray }

/-- Values for some keys. -/
structure PointTable (α : Type) where
  /-- The keys, ascending. -/
  keys : Array Nat
  /-- The value of each key. -/
  values : Array α

/-- The value of a key, if it has one. -/
def PointTable.get? {α : Type} (t : PointTable α) (key : Nat) : Option α :=
  match countAtMost t.keys key with
  | 0 => none
  | k + 1 => if t.keys.getD k 0 = key then t.values[k]? else none

/-- Reads a table from its records, each giving a key and a value. -/
def PointTable.ofRecords {α : Type} (entry : List String → Nat × α) (text : String) :
    PointTable α :=
  let es := (records text).map entry
  { keys := (es.map (·.1)).toArray, values := (es.map (·.2)).toArray }

end Unicode

end ChainWatch
