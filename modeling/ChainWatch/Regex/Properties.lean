import ChainWatch.Unicode.Table
import ChainWatch.Unicode.RegexData

/-!
# Character properties of regular expressions

The sets of characters a pattern can name: general categories (one or a group of them), scripts,
binary properties, and the special sets `Any`, `Assigned` and `ASCII`; and simple case folding,
which makes a case-insensitive pattern match every character of a class of characters that fold
to one another.

A name in a pattern is compared loosely (`looseName`): case, spaces, underscores and hyphens do
not count, nor a leading `is`. `resolveName` and `resolveValue` find the set a name or a
`name=value` pair stands for, trying the names in the order that decides between them: a
property name first (which must then be a binary property), then a general category, then a
script. The abbreviations `cf`, `sc` and `lc` name general categories, not the properties they
also abbreviate.

Membership is known for the general categories, the scripts and the binary properties that have
a table here; the values of `Age` and of the break properties are recognised as names but match
nothing, and `Script_Extensions` is taken to be `Script`.
-/

namespace ChainWatch

namespace Regex

open Unicode

/-- A name compared loosely: without a leading `is` (in any case), spaces, underscores, hyphens
and non-ASCII characters, in lowercase. `isc` keeps its `is`: it is an alias of the category
`Other`, not of `c`. -/
def looseName (s : String) : String :=
  let cs := s.toList
  let (startsWithIs, rest) := match cs with
    | a :: b :: more =>
      if (a = 'i' || a = 'I') && (b = 's' || b = 'S') then (true, more) else (false, cs)
    | _ => (false, cs)
  let kept := rest.filterMap fun c =>
    if c = ' ' || c = '_' || c = '-' then none
    else if 'A' ≤ c && c ≤ 'Z' then some (Char.ofNat (c.toNat + 32))
    else if c.toNat ≤ 0x7F then some c
    else none
  if startsWithIs && kept = ['c'] then "isc" else String.ofList kept

/-- The general category of every code point, by its two-letter name. -/
def generalCategoryTable : RangeTable String :=
  RangeTable.ofText (fun r => r.headD "Cn") "Cc" generalCategoryText

/-- The two-letter general category of a code point. -/
def generalCategory (c : Nat) : String := generalCategoryTable.get c

/-- The script of every code point, by its long name. -/
def scriptTable : RangeTable String :=
  RangeTable.ofText (fun r => r.headD "Unknown") "Common" scriptText

/-- The script of a code point. -/
def script (c : Nat) : String := scriptTable.get c

/-- Groups the records of the binary property table, read from its end: the ranges read since
the last `=Name` record belong to that name. -/
def groupBinaryProperties : List (List String) → List (Nat × Nat) → List (String × RangeSet) →
    List (String × RangeSet)
  | [], _, acc => acc
  | r :: rs, ranges, acc =>
    match r with
    | [lo, hi] => groupBinaryProperties rs ((hexValue lo, hexValue hi) :: ranges) acc
    | field :: _ =>
      if field.startsWith "=" then
        groupBinaryProperties rs [] (((field.drop 1).toString, RangeSet.ofRanges ranges) :: acc)
      else groupBinaryProperties rs ranges acc
    | [] => groupBinaryProperties rs ranges acc

/-- The binary properties a pattern may name, by long name, with their code points. -/
def binaryProperties : List (String × RangeSet) :=
  groupBinaryProperties (records binaryPropertyText).reverse [] []

/-- The code points of a binary property, by its long name. -/
def binaryProperty? (name : String) : Option RangeSet :=
  (binaryProperties.find? (·.1 = name)).map (·.2)

/-- Whether a code point has a binary property, by its long name; `false` for an unknown name. -/
def hasProperty (name : String) (c : Nat) : Bool :=
  ((binaryProperty? name).map (·.contains c)).getD false

/-- The names of the properties: each loose alias with the long name it stands for. -/
def propertyNames : List (String × String) :=
  (records propertyNameText).flatMap fun r =>
    ((r.getD 1 "").splitOn " ").map fun other => (looseName other, r.headD "")

/-- The values of the enumerated properties: the short name of the property, a loose alias and
the long name of the value. -/
def propertyValues : List (String × String × String) :=
  (records propertyValueText).flatMap fun r =>
    ((r.getD 2 "").splitOn " ").map fun other => (r.headD "", looseName other, r.getD 1 "")

/-- The long name of the property a loose name stands for. -/
def canonicalProperty? (loose : String) : Option String :=
  (propertyNames.find? (·.1 = loose)).map (·.2)

/-- The long name of a value of a property (by its short name) that a loose name stands for. -/
def canonicalValue? (property loose : String) : Option String :=
  (propertyValues.find? fun (p, a, _) => p = property && a = loose).map (·.2.2)

/-- The general category (or `Any`, `Assigned`, `ASCII`) a loose name stands for. -/
def canonicalCategory? (loose : String) : Option String :=
  if loose = "any" then some "Any"
  else if loose = "assigned" then some "Assigned"
  else if loose = "ascii" then some "ASCII"
  else canonicalValue? "gc" loose

/-- A set of characters a pattern names. -/
inductive PropertySet where
  /-- Every code point. -/
  | any
  /-- The assigned code points. -/
  | assigned
  /-- The ASCII code points. -/
  | ascii
  /-- The code points of some general categories, by their two-letter names. -/
  | categories (codes : List String)
  /-- The code points of a script, by its long name. -/
  | script (name : String)
  /-- The code points of a binary property. -/
  | binary (set : RangeSet)
  /-- A set recognised by name whose members are not tabled here. -/
  | untabled

/-- Whether a code point is in a set. -/
def PropertySet.contains : PropertySet → Nat → Bool
  | .any, _ => true
  | .assigned, c => generalCategory c != "Cn"
  | .ascii, c => c ≤ 0x7F
  | .categories codes, c => codes.contains (generalCategory c)
  | .script name, c => Regex.script c = name
  | .binary set, c => set.contains c
  | .untabled, _ => false

/-- The two-letter general categories. -/
def categoryCodes : List String :=
  ["Lu", "Ll", "Lt", "Lm", "Lo", "Mn", "Mc", "Me", "Nd", "Nl", "No", "Pc", "Pd", "Ps", "Pe",
   "Pi", "Pf", "Po", "Sm", "Sc", "Sk", "So", "Zs", "Zl", "Zp", "Cc", "Cf", "Cs", "Co", "Cn"]

/-- The set of a general category by its long name (or `Any`, `Assigned`, `ASCII`). -/
def categorySet (canonical : String) : PropertySet :=
  if canonical = "Any" then .any
  else if canonical = "Assigned" then .assigned
  else if canonical = "ASCII" then .ascii
  else if canonical = "Cased_Letter" then .categories ["Lu", "Ll", "Lt"]
  else
    let short := ((propertyValues.find? fun (p, _, v) => p = "gc" && v = canonical).map
      fun (_, a, _) => a).getD ""
    if short.length = 1 then .categories (categoryCodes.filter fun code => code.toLower.startsWith short)
    else .categories (categoryCodes.filter fun code => code.toLower = short)

/-- Why a property name was refused. -/
inductive PropertyError where
  /-- No property has the name. -/
  | propertyNotFound
  /-- The property has no value of the name. -/
  | valueNotFound
  deriving DecidableEq, Repr

/-- The set a name alone stands for: a binary property, a general category or a script. -/
def resolveName (name : String) : Except PropertyError PropertySet :=
  let loose := looseName name
  let asProperty := if loose = "cf" || loose = "sc" || loose = "lc" then none else canonicalProperty? loose
  match asProperty with
  | some canonical => match binaryProperty? canonical with
    | some set => .ok (.binary set)
    | none => .error .propertyNotFound
  | none => match canonicalCategory? loose with
    | some canonical => .ok (categorySet canonical)
    | none => match canonicalValue? "sc" loose with
      | some canonical => .ok (.script canonical)
      | none => .error .propertyNotFound

/-- The set a `name=value` pair stands for. -/
def resolveValue (name value : String) : Except PropertyError PropertySet :=
  let looseValue := looseName value
  match canonicalProperty? (looseName name) with
  | none => .error .propertyNotFound
  | some "General_Category" => match canonicalCategory? looseValue with
    | some canonical => .ok (categorySet canonical)
    | none => .error .valueNotFound
  | some "Script" | some "Script_Extensions" => match canonicalValue? "sc" looseValue with
    | some canonical => .ok (.script canonical)
    | none => .error .valueNotFound
  | some "Age" => (canonicalValue? "age" looseValue).elim (.error .valueNotFound) fun _ => .ok .untabled
  | some "Grapheme_Cluster_Break" =>
    (canonicalValue? "gcb" looseValue).elim (.error .valueNotFound) fun _ => .ok .untabled
  | some "Word_Break" => (canonicalValue? "wb" looseValue).elim (.error .valueNotFound) fun _ => .ok .untabled
  | some "Sentence_Break" =>
    (canonicalValue? "sb" looseValue).elim (.error .valueNotFound) fun _ => .ok .untabled
  | some _ => .error .valueNotFound

/-! ### Perl classes and case folding -/

/-- Whether a code point has the property White_Space. -/
def isWhiteSpace (c : Nat) : Bool :=
  (0x9 ≤ c && c ≤ 0xD) || c = 0x20 || c = 0x85 || c = 0xA0 || c = 0x1680 ||
  (0x2000 ≤ c && c ≤ 0x200A) || c = 0x2028 || c = 0x2029 || c = 0x202F || c = 0x205F || c = 0x3000

/-- The code points of the property Alphabetic. -/
def alphabeticSet : RangeSet := (binaryProperty? "Alphabetic").getD (RangeSet.ofRanges [])

/-- Whether a code point is alphabetic. -/
def isAlphabetic (c : Nat) : Bool := alphabeticSet.contains c

/-- Whether a code point is numeric: a decimal digit, a letter number or another number. -/
def isNumeric (c : Nat) : Bool :=
  let gc := generalCategory c
  gc = "Nd" || gc = "Nl" || gc = "No"

/-- Whether a code point is a word character of Unicode patterns: alphabetic, a mark, a decimal
digit, a connector punctuation or a joiner. -/
def isWordChar (c : Nat) : Bool :=
  isAlphabetic c ||
    (let gc := generalCategory c
     gc = "Mn" || gc = "Mc" || gc = "Me" || gc = "Nd" || gc = "Pc") ||
    c = 0x200C || c = 0x200D

/-- Whether a code point is an ASCII word character: a letter, a digit or `_`. -/
def isAsciiWordChar (c : Nat) : Bool :=
  (0x30 ≤ c && c ≤ 0x39) || (0x41 ≤ c && c ≤ 0x5A) || (0x61 ≤ c && c ≤ 0x7A) || c = 0x5F

/-- The classes of simple case folding, by each of their members. -/
def caseClassTable : PointTable (List Nat) :=
  PointTable.ofRecords (fun r => (hexValue (r.headD ""), hexList (r.getD 1 ""))) caseOrbitText

/-- The code points that fold together with a code point under simple case folding, itself
included. -/
def caseClass (c : Nat) : List Nat := (caseClassTable.get? c).getD [c]

/-- The code points that fold together with a code point when only ASCII letters fold. -/
def asciiCaseClass (c : Nat) : List Nat :=
  if 0x41 ≤ c && c ≤ 0x5A then [c, c + 32]
  else if 0x61 ≤ c && c ≤ 0x7A then [c - 32, c]
  else [c]

end Regex

end ChainWatch
