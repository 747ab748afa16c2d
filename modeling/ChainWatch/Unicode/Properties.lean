import ChainWatch.Unicode.Table
import ChainWatch.Unicode.PropertyData
import ChainWatch.Unicode.NormalData

/-!
# Character properties

The properties of code points that domain-name checks and the quoting of strings need, read from
the tables of `PropertyData` and `NormalData`: the bidirectional class, the joining type, the
canonical combining class, and whether a character is a combining mark, extends a grapheme, or is
invisible (not printable).
-/

namespace ChainWatch

namespace Unicode

/-- The bidirectional classes of the Unicode Bidirectional Algorithm. -/
inductive BidiClass where
  | L | R | AL | EN | ES | ET | AN | CS | NSM | BN | B | S | WS | ON
  | LRE | LRO | RLE | RLO | PDF | LRI | RLI | FSI | PDI
  deriving DecidableEq, Repr

/-- A bidirectional class by its short name; `L` for an unknown name. -/
def BidiClass.ofName : String → BidiClass
  | "R" => .R | "AL" => .AL | "EN" => .EN | "ES" => .ES | "ET" => .ET | "AN" => .AN
  | "CS" => .CS | "NSM" => .NSM | "BN" => .BN | "B" => .B | "S" => .S | "WS" => .WS
  | "ON" => .ON | "LRE" => .LRE | "LRO" => .LRO | "RLE" => .RLE | "RLO" => .RLO
  | "PDF" => .PDF | "LRI" => .LRI | "RLI" => .RLI | "FSI" => .FSI | "PDI" => .PDI
  | _ => .L

/-- The joining types of cursive scripts: non-joining, dual-joining, right-joining,
left-joining, join-causing and transparent. -/
inductive JoiningType where
  | U | D | R | L | C | T
  deriving DecidableEq, Repr

/-- A joining type by its short name; `U` for an unknown name. -/
def JoiningType.ofName : String → JoiningType
  | "D" => .D | "R" => .R | "L" => .L | "C" => .C | "T" => .T
  | _ => .U

/-- The table of bidirectional classes. -/
def bidiClassTable : RangeTable BidiClass :=
  RangeTable.ofText (fun r => BidiClass.ofName (r.headD "")) .L bidiClassText

/-- The bidirectional class of a code point. -/
def bidiClass (c : Nat) : BidiClass := bidiClassTable.get c

/-- The table of joining types. -/
def joiningTypeTable : RangeTable JoiningType :=
  RangeTable.ofText (fun r => JoiningType.ofName (r.headD "")) .U joiningTypeText

/-- The joining type of a code point. -/
def joiningType (c : Nat) : JoiningType := joiningTypeTable.get c

/-- The table of canonical combining classes. -/
def combiningClassTable : RangeTable Nat :=
  RangeTable.ofText (fun r => ((r.headD "").toNat?).getD 0) 0 combiningClassText

/-- The canonical combining class of a code point: zero for a starter. -/
def combiningClass (c : Nat) : Nat := combiningClassTable.get c

/-- The combining class of the viramas, after which the joiners may stand. -/
def viramaClass : Nat := 9

/-- The set of combining marks. -/
def markSet : RangeSet := RangeSet.ofText markText

/-- Whether a code point is a combining mark (general category `M`). -/
def isMark (c : Nat) : Bool := markSet.contains c

/-- The set of characters that extend a grapheme. -/
def graphemeExtendSet : RangeSet := RangeSet.ofText graphemeExtendText

/-- Whether a code point has the property Grapheme_Extend. -/
def isGraphemeExtend (c : Nat) : Bool := graphemeExtendSet.contains c

/-- The set of characters that are not printable. -/
def invisibleSet : RangeSet := RangeSet.ofText invisibleText

/-- Whether a code point is printable: not a separator other than the space, a control, a format
character, a surrogate, a private-use or an unassigned code point. -/
def isPrintable (c : Nat) : Bool := !invisibleSet.contains c

end Unicode

end ChainWatch
