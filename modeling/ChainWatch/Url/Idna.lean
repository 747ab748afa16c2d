import ChainWatch.Url.Punycode
import ChainWatch.Url.Text
import ChainWatch.Unicode.IdnaData
import ChainWatch.Unicode.Normalize

/-!
# Internationalised domain names

`domainToAscii` turns the text of a host into the ASCII form a URL keeps, the way UTS #46
processing does it for URLs: non-transitional, hyphens allowed anywhere, no length limits,
joiners and right-to-left labels checked.

1. Each character is mapped by the IDNA mapping table (`mappingTable`): uppercase letters and
   compatibility forms become their lowercase or plain forms, some characters vanish, and
   disallowed ones refuse the name. The result is put in Normalization Form C. An ASCII
   character that is forbidden in a domain (controls, space, and `%#/:<>?@[\]^|`) refuses it
   too, also when a mapping produced it.
2. The text is cut into labels at dots. A label that starts with `xn--` must be Punycode for a
   label that is not all ASCII, in Normalization Form C, made of valid characters only and not
   itself starting with `xn--`; it is kept as it is. Every label must not start with a combining
   mark and must keep the joiner rules (`joinersFit`); a label that is not all ASCII is written in
   Punycode.
3. When some label holds a right-to-left character or an Arabic digit, every label must keep the
   bidirectional rule (`keepsBidiRule`).
-/

namespace ChainWatch

namespace Idna

open Unicode

/-- What the mapping does with a character. -/
inductive Status where
  | valid
  | mapped (image : List Nat)
  | ignored
  | disallowed
  /-- Valid in non-transitional processing, mapped in transitional processing. -/
  | deviation

/-- A status by its record in the mapping table. -/
def Status.ofRecord : List String → Status
  | "V" :: _ => .valid
  | "M" :: image :: _ => .mapped (hexList image)
  | "I" :: _ => .ignored
  | "D" :: _ => .deviation
  | _ => .disallowed

/-- The IDNA mapping table. -/
def mappingTable : RangeTable Status := RangeTable.ofText Status.ofRecord .disallowed idnaMappingText

/-- What the mapping does with code point `c`. -/
def charStatus (c : Nat) : Status := mappingTable.get c

/-- Whether an ASCII character is forbidden in a domain: controls, space, DEL and
`%#/:<>?@[\]^|`. -/
def isForbiddenAscii (c : Nat) : Bool :=
  c ≤ 0x20 || c = 0x7F || [0x25, 0x23, 0x2F, 0x3A, 0x3C, 0x3E, 0x3F, 0x40, 0x5B, 0x5C, 0x5D, 0x5E, 0x7C].contains c

/-- The mapped text of a domain, or `none` when a character is disallowed. -/
def mapAll : List Nat → Option (List Nat)
  | [] => some []
  | c :: cs => do
    let rest ← mapAll cs
    match charStatus c with
    | .valid | .deviation => pure (c :: rest)
    | .mapped image => pure (image ++ rest)
    | .ignored => pure rest
    | .disallowed => none

/-! ### Checks on labels -/

/-- The zero width non-joiner. -/
def zwnj : Nat := 0x200C

/-- The zero width joiner. -/
def zwj : Nat := 0x200D

/-- Whether the nearest character that is not transparent, among `cs`, has one of the joining
types `accepted`. -/
def joinsTowards (accepted : List JoiningType) : List Nat → Bool
  | [] => false
  | c :: cs =>
    let t := joiningType c
    if t = .T then joinsTowards accepted cs else accepted.contains t

/-- Whether every joiner of a label keeps the rules for joiners: after a virama, or, for a
non-joiner, between a character joining to the left and one joining to the right, with only
transparent characters between. `before` holds the characters read so far, nearest first. -/
def joinersFitFrom (before : List Nat) : List Nat → Bool
  | [] => true
  | c :: cs =>
    let afterVirama := match before with
      | b :: _ => combiningClass b = viramaClass
      | [] => false
    let fits :=
      if c = zwj then afterVirama
      else if c = zwnj then
        afterVirama || (joinsTowards [.L, .D] before && joinsTowards [.R, .D] cs)
      else true
    fits && joinersFitFrom (c :: before) cs

/-- Whether every joiner of a label keeps the rules for joiners. -/
def joinersFit (label : List Nat) : Bool := joinersFitFrom [] label

/-- Whether a label may stand as it is: no leading combining mark, joiners where they may be. -/
def labelFits (label : List Nat) : Bool :=
  (match label with
    | c :: _ => !isMark c
    | [] => true) && joinersFit label

/-- Whether a decoded label is made of valid characters only: nothing that the mapping would
change, drop or refuse, no forbidden ASCII character and no dot. -/
def allValid (label : List Nat) : Bool :=
  label.all fun c =>
    !isForbiddenAscii c && c != 0x2E &&
    match charStatus c with
    | .valid | .deviation => true
    | _ => false

/-! ### The bidirectional rule -/

/-- Whether a label keeps the bidirectional rule of a domain with right-to-left labels: it starts
with a left-to-right or right-to-left letter; a left-to-right label holds only `L`, `EN`, `ES`,
`CS`, `ET`, `ON`, `BN` and `NSM` characters and ends, before its marks, with `L` or `EN`; a
right-to-left label holds no `L` character and no explicit direction marks, does not mix
European and Arabic digits, and ends, before its marks, with `R`, `AL`, `EN` or `AN`. An empty
label keeps it. -/
def keepsBidiRule (label : List Nat) : Bool :=
  let classes := label.map bidiClass
  match classes with
  | [] => true
  | first :: _ =>
    let last := (classes.reverse.dropWhile (· = .NSM)).head?
    if first = .L then
      classes.all (fun k => [BidiClass.L, .EN, .ES, .CS, .ET, .ON, .BN, .NSM].contains k) &&
      (last = some .L || last = some .EN)
    else if first = .R || first = .AL then
      classes.all (fun k => [BidiClass.R, .AL, .AN, .EN, .ES, .CS, .ET, .ON, .BN, .NSM].contains k) &&
      (last = some .R || last = some .AL || last = some .EN || last = some .AN) &&
      !(classes.contains .EN && classes.contains .AN)
    else false

/-- Whether a label holds a right-to-left character or an Arabic digit. -/
def isRightToLeft (label : List Nat) : Bool :=
  label.any fun c => let k := bidiClass c; k = .R || k = .AL || k = .AN

/-! ### Labels and domains -/

/-- A label read for output: its code points for the checks, and its ASCII form. -/
def readLabel (label : List Nat) : Option (List Nat × List Char) :=
  match label with
  | 0x78 :: 0x6E :: 0x2D :: 0x2D :: rest => do
    if rest.any (0x80 ≤ ·) then none
    let decoded ← Punycode.decode (rest.map Char.ofNat)
    if decoded.isEmpty || decoded.all (· < 0x80) then none
    if nfc decoded != decoded || decoded.take 4 == [0x78, 0x6E, 0x2D, 0x2D] then none
    if !(allValid decoded && labelFits decoded) then none
    pure (decoded, label.map Char.ofNat)
  | _ =>
    if !labelFits label then none
    else if label.all (· < 0x80) then some (label, label.map Char.ofNat)
    else do
      let encoded ← Punycode.encode label
      pure (label, ['x', 'n', '-', '-'] ++ encoded)

end Idna

/-- The ASCII form of a domain, or `none` when it is not a valid internationalised name. -/
def domainToAscii (domain : List Nat) : Option (List Char) := do
  let mapped := Unicode.nfc (← Idna.mapAll domain)
  if mapped.any fun c => c < 0x80 && Idna.isForbiddenAscii c then none
  let labels ← (splitOnLabels mapped).mapM Idna.readLabel
  if labels.any (fun l => Idna.isRightToLeft l.1) && !labels.all (fun l => Idna.keepsBidiRule l.1) then
    none
  pure ((labels.map (·.2)).intersperse ['.']).flatten
where
  /-- The labels of a mapped domain, cut at dots. -/
  splitOnLabels (cs : List Nat) : List (List Nat) :=
    (splitOnChar '.' (cs.map Char.ofNat)).map (·.map Char.toNat)

end ChainWatch
