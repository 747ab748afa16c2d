import ChainWatch.Unicode.Properties

/-!
# Canonical composition (NFC)

`nfc` puts a text, as a list of code points, in Normalization Form C: every character is replaced
by its full canonical decomposition, each run of non-starters is sorted by combining class
(stably, so marks of one class keep their order), and then each character is joined to the last
starter before it when the two have a primary composite and no character between them blocks it.

A character between the starter and a later one blocks it when its combining class is zero or at
least that of the later one. After the ordering step the classes after a starter rise, so the
last character kept after the starter is the only one to look at (`Composer.step`). Hangul
syllables decompose into their jamo and compose from them by arithmetic.
-/

namespace ChainWatch

namespace Unicode

/-- The first Hangul syllable. -/
def hangulBase : Nat := 0xAC00

/-- The first leading consonant jamo. -/
def leadBase : Nat := 0x1100

/-- The first vowel jamo. -/
def vowelBase : Nat := 0x1161

/-- The code point before the first trailing consonant jamo. -/
def trailBase : Nat := 0x11A7

/-- How many leading consonants, vowels and trailing consonants (with none) there are. -/
def leadCount : Nat := 19

/-- How many vowels there are. -/
def vowelCount : Nat := 21

/-- How many trailing consonants there are, counting none. -/
def trailCount : Nat := 28

/-- How many Hangul syllables there are. -/
def hangulCount : Nat := leadCount * vowelCount * trailCount

/-- The canonical decompositions other than those of Hangul syllables. -/
def decompositionTable : PointTable (List Nat) :=
  PointTable.ofRecords (fun r => (hexValue (r.headD ""), hexList (r.getD 1 ""))) decompositionText

/-- The key of a pair of code points in `compositionTable`. -/
def pairKey (first second : Nat) : Nat := first * 0x110000 + second

/-- The primary composites other than Hangul syllables, by the pair they compose from. -/
def compositionTable : PointTable Nat :=
  PointTable.ofRecords
    (fun r => (pairKey (hexValue (r.headD "")) (hexValue (r.getD 1 "")), hexValue (r.getD 2 "")))
    compositionText

/-- The full canonical decomposition of a code point. -/
def decomposeChar (c : Nat) : List Nat :=
  if hangulBase ≤ c && c < hangulBase + hangulCount then
    let s := c - hangulBase
    let lead := leadBase + s / (vowelCount * trailCount)
    let vowel := vowelBase + s % (vowelCount * trailCount) / trailCount
    let trail := s % trailCount
    if trail = 0 then [lead, vowel] else [lead, vowel, trailBase + trail]
  else (decompositionTable.get? c).getD [c]

/-- The primary composite of a starter and a following character, if there is one. -/
def composePair (first second : Nat) : Option Nat :=
  if leadBase ≤ first && first < leadBase + leadCount &&
      vowelBase ≤ second && second < vowelBase + vowelCount then
    some (hangulBase + ((first - leadBase) * vowelCount + (second - vowelBase)) * trailCount)
  else if hangulBase ≤ first && first < hangulBase + hangulCount &&
      (first - hangulBase) % trailCount = 0 &&
      trailBase < second && second < trailBase + trailCount then
    some (first + (second - trailBase))
  else compositionTable.get? (pairKey first second)

/-- Inserts a non-starter into a run sorted by combining class, after those of its class. -/
def insertByClass (c : Nat) : List Nat → List Nat
  | [] => [c]
  | d :: ds => if combiningClass c < combiningClass d then c :: d :: ds else d :: insertByClass c ds

/-- Sorts the runs of non-starters of a text, `run` being the sorted run read so far. -/
def orderRuns (run : List Nat) : List Nat → List Nat
  | [] => run
  | c :: cs =>
    if combiningClass c = 0 then run ++ c :: orderRuns [] cs
    else orderRuns (insertByClass c run) cs

/-- The canonical ordering of a text: each run of non-starters sorted by combining class. -/
def canonicalOrder (cs : List Nat) : List Nat := orderRuns [] cs

/-- The canonical decomposition of a text, in canonical order (Normalization Form D). -/
def nfd (cs : List Nat) : List Nat := canonicalOrder (cs.flatMap decomposeChar)

/-- The state of composition: the output before the last starter (reversed), the last starter,
and the characters kept after it (reversed). -/
structure Composer where
  done : List Nat := []
  starter : Option Nat := none
  trail : List Nat := []

/-- The output of a composition. -/
def Composer.output (k : Composer) : List Nat :=
  k.done.reverse ++ k.starter.toList ++ k.trail.reverse

/-- Takes one more character of a text in canonical order: it joins the starter when they have a
composite and nothing kept between them blocks it, and is kept otherwise, becoming the starter
when its class is zero. -/
def Composer.step (k : Composer) (c : Nat) : Composer :=
  let cls := combiningClass c
  let unblocked := match k.trail with
    | [] => true
    | last :: _ => combiningClass last < cls
  let joined := match k.starter with
    | some s => if unblocked then composePair s c else none
    | none => none
  match joined with
  | some p => { k with starter := some p }
  | none =>
    if cls = 0 then { done := k.trail ++ k.starter.toList ++ k.done, starter := some c, trail := [] }
    else { k with trail := c :: k.trail }

/-- The canonical composition of a text (Normalization Form C). -/
def nfc (cs : List Nat) : List Nat := ((nfd cs).foldl Composer.step {}).output

end Unicode

end ChainWatch
