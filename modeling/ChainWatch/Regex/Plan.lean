import ChainWatch.Regex.Syntax

/-!
# From syntax to a matching plan

`planOf` turns a syntax tree into a `Plan`: classes of characters, zero-width tests, and their
concatenations, alternations and repetitions. Flags are applied here, read from left to right:
a flag group sets flags for the rest of the group it stands in (across later branches of an
alternation too), and a group with flags sets them for its body only.

Case-insensitive classes are closed under simple case folding, before they are negated (so
`(?i)[^k]` refuses `K` and the Kelvin sign too). With Unicode switched off (`(?-u)`), classes
and word tests are ASCII, and whatever could match a part of a character is refused
(`invalidUtf8`): `.`, negated classes and `\B`; Unicode classes are refused there too
(`unicodeNotAllowed`). Property names that no set has are refused
(`unicodePropertyNotFound`, `unicodePropertyValueNotFound`).
-/

namespace ChainWatch

namespace Regex

/-- The flags in force while planning. -/
structure Flags where
  caseInsensitive : Bool := false
  multiLine : Bool := false
  dotMatchesNewLine : Bool := false
  swapGreed : Bool := false
  unicode : Bool := true
  crlf : Bool := false
  deriving DecidableEq, Repr

/-- The flags after a flag group's items: each flag named is set on, or off after a `-`. -/
def Flags.apply (f : Flags) (items : List FlagItem) : Flags :=
  (items.foldl (fun (acc : Flags × Bool) item =>
    let (f, enable) := acc
    match item with
    | .negation => (f, false)
    | .flag .caseInsensitive => ({ f with caseInsensitive := enable }, enable)
    | .flag .multiLine => ({ f with multiLine := enable }, enable)
    | .flag .dotMatchesNewLine => ({ f with dotMatchesNewLine := enable }, enable)
    | .flag .swapGreed => ({ f with swapGreed := enable }, enable)
    | .flag .unicode => ({ f with unicode := enable }, enable)
    | .flag .crlf => ({ f with crlf := enable }, enable)
    | .flag .ignoreWhitespace => (f, enable)) (f, true)).1

/-- A set of characters, as a description that a character can be tested against. -/
inductive CharClass where
  | nothing
  | single (c : Nat)
  | range (lo hi : Nat)
  | property (set : PropertySet)
  /-- A Perl class: Unicode or ASCII. -/
  | perl (kind : PerlKind) (unicode : Bool)
  | ascii (kind : AsciiKind)
  /-- The characters that fold together with a member: by simple case folding, or, when
  `asciiOnly`, by the case of ASCII letters alone. -/
  | folded (c : CharClass) (asciiOnly : Bool)
  | complement (c : CharClass)
  | union (a b : CharClass)
  | inter (a b : CharClass)
  | diff (a b : CharClass)
  | symDiff (a b : CharClass)

/-- Whether a code point is in an ASCII class. -/
def AsciiKind.contains (k : AsciiKind) (c : Nat) : Bool :=
  let upper := 0x41 ≤ c && c ≤ 0x5A
  let lower := 0x61 ≤ c && c ≤ 0x7A
  let digit := 0x30 ≤ c && c ≤ 0x39
  match k with
  | .alnum => upper || lower || digit
  | .alpha => upper || lower
  | .ascii => c ≤ 0x7F
  | .blank => c = 0x20 || c = 0x09
  | .cntrl => c ≤ 0x1F || c = 0x7F
  | .digit => digit
  | .graph => 0x21 ≤ c && c ≤ 0x7E
  | .lower => lower
  | .print => 0x20 ≤ c && c ≤ 0x7E
  | .punct => (0x21 ≤ c && c ≤ 0x2F) || (0x3A ≤ c && c ≤ 0x40) || (0x5B ≤ c && c ≤ 0x60) ||
      (0x7B ≤ c && c ≤ 0x7E)
  | .space => c = 0x20 || (0x09 ≤ c && c ≤ 0x0D)
  | .upper => upper
  | .word => upper || lower || digit || c = 0x5F
  | .xdigit => digit || (0x41 ≤ c && c ≤ 0x46) || (0x61 ≤ c && c ≤ 0x66)

/-- Whether a code point is in a Perl class. -/
def perlContains (kind : PerlKind) (unicode : Bool) (c : Nat) : Bool :=
  match kind, unicode with
  | .digit, true => generalCategory c = "Nd"
  | .digit, false => 0x30 ≤ c && c ≤ 0x39
  | .space, true => isWhiteSpace c
  | .space, false => c = 0x20 || (0x09 ≤ c && c ≤ 0x0D)
  | .word, true => isWordChar c
  | .word, false => isAsciiWordChar c

/-- Whether a code point is in a set. -/
def CharClass.contains : CharClass → Nat → Bool
  | .nothing, _ => false
  | .single a, c => c = a
  | .range lo hi, c => lo ≤ c && c ≤ hi
  | .property set, c => set.contains c
  | .perl kind unicode, c => perlContains kind unicode c
  | .ascii kind, c => kind.contains c
  | .folded inner asciiOnly, c =>
    (if asciiOnly then asciiCaseClass c else caseClass c).any inner.contains
  | .complement inner, c => !inner.contains c
  | .union a b, c => a.contains c || b.contains c
  | .inter a b, c => a.contains c && b.contains c
  | .diff a b, c => a.contains c && !b.contains c
  | .symDiff a b, c => a.contains c != b.contains c

/-- The zero-width tests. -/
inductive Look where
  | start
  | finish
  | startLF
  | endLF
  | startCRLF
  | endCRLF
  /-- A word boundary; Unicode or ASCII words. -/
  | word (unicode : Bool)
  | notWord (unicode : Bool)
  | wordStart (unicode : Bool)
  | wordEnd (unicode : Bool)
  | wordStartHalf (unicode : Bool)
  | wordEndHalf (unicode : Bool)
  deriving DecidableEq, Repr

/-- A matching plan. -/
inductive Plan where
  | empty
  | cls (c : CharClass)
  | look (l : Look)
  | concat (items : List Plan)
  | alt (items : List Plan)
  /-- Between `min` and `max` repetitions, without bound for `none`. -/
  | rep (min : Nat) (max : Option Nat) (body : Plan)

/-- A refusal at a stretch. -/
def refuse {α : Type} (span : Span) (kind : ErrorKind) : Except PatternError α :=
  .error { kind, span }

/-- The set a Unicode class names, negated when it says so. -/
def unicodeClass (flags : Flags) (name : UnicodeName) (negated : Bool) (span : Span) :
    Except PatternError CharClass := do
  if !flags.unicode then refuse span .unicodeNotAllowed
  let (resolved, negated) := match name with
    | .oneLetter c => (resolveName (String.singleton c), negated)
    | .named n => (resolveName n, negated)
    | .namedValue n v notEqual => (resolveValue n v, negated != notEqual)
  match resolved with
  | .error .propertyNotFound => refuse span .unicodePropertyNotFound
  | .error .valueNotFound => refuse span .unicodePropertyValueNotFound
  | .ok set =>
    let base : CharClass := .property set
    let folded := if flags.caseInsensitive then CharClass.folded base false else base
    pure (if negated then .complement folded else folded)

/-- Closes a leaf class under case folding when the flags ask for it. -/
def foldIf (flags : Flags) (c : CharClass) : CharClass :=
  if flags.caseInsensitive then .folded c !flags.unicode else c

/-- Whether a class, taken over bytes, holds only ASCII bytes. -/
def CharClass.isAsciiOnly (c : CharClass) : Bool :=
  !((List.range 128).any fun i => c.contains (128 + i))

/-- The code point a literal of a class stands for; with Unicode off it must be ASCII or a byte. -/
def classLiteral (flags : Flags) (lit : Literal) : Except PatternError Nat :=
  if flags.unicode then pure lit.c.toNat
  else if lit.hexByte && lit.c.toNat ≤ 0xFF then pure lit.c.toNat
  else if lit.c.toNat ≤ 0x7F then pure lit.c.toNat
  else refuse lit.span .unicodeNotAllowed

/-- A Perl class with the flags, refused when it could match part of a character. -/
def perlClass (flags : Flags) (kind : PerlKind) (negated : Bool) (span : Span) :
    Except PatternError CharClass :=
  if flags.unicode then pure (if negated then .complement (.perl kind true) else .perl kind true)
  else if negated then refuse span .invalidUtf8
  else pure (.perl kind false)

/-- The set of a class node with the flags. -/
def classOf (flags : Flags) : ClassNode → Except PatternError CharClass
  | .empty => pure .nothing
  | .literal lit => do pure (foldIf flags (.single (← classLiteral flags lit)))
  | .range lo hi => do pure (foldIf flags (.range (← classLiteral flags lo) (← classLiteral flags hi)))
  | .ascii kind negated span => do
    let folded := foldIf flags (.ascii kind)
    let c := if negated then CharClass.complement folded else folded
    if !flags.unicode && !c.isAsciiOnly then refuse span .invalidUtf8
    pure c
  | .perl kind negated span => perlClass flags kind negated span
  | .unicode name negated span => unicodeClass flags name negated span
  | .union a b => do pure (.union (← classOf flags a) (← classOf flags b))
  | .bracketed negated body span => do
    let inner ← classOf flags body
    let c := if negated then CharClass.complement inner else inner
    if !flags.unicode && !c.isAsciiOnly then refuse span .invalidUtf8
    pure c
  | .binop op lhs rhs => do
    let a ← classOf flags lhs
    let b ← classOf flags rhs
    pure (match op with
      | .intersection => .inter a b
      | .difference => .diff a b
      | .symmetricDifference => .symDiff a b)

/-- A class at the top of a pattern: with Unicode off it matches ASCII characters only. -/
def topClass (flags : Flags) (node : ClassNode) : Except PatternError CharClass := do
  let c ← classOf flags node
  pure (if flags.unicode then c else .inter (.range 0 0x7F) c)

/-- The plan of a literal character. -/
def literalPlan (flags : Flags) (lit : Literal) : Except PatternError Plan := do
  let c := lit.c.toNat
  if !flags.unicode && lit.hexByte && 0x80 ≤ c && c ≤ 0xFF then refuse lit.span .invalidUtf8
  if !flags.caseInsensitive then return .cls (.single c)
  if flags.unicode then return .cls (.folded (.single c) false)
  if (0x41 ≤ c && c ≤ 0x5A) || (0x61 ≤ c && c ≤ 0x7A) then return .cls (.folded (.single c) true)
  return .cls (.single c)

/-- The plan of `.`. -/
def dotPlan (flags : Flags) (span : Span) : Except PatternError Plan :=
  if !flags.unicode then refuse span .invalidUtf8
  else if flags.dotMatchesNewLine then pure (.cls (.complement .nothing))
  else if flags.crlf then pure (.cls (.complement (.union (.single 0x0A) (.single 0x0D))))
  else pure (.cls (.complement (.single 0x0A)))

/-- The plan of an assertion. -/
def assertionPlan (flags : Flags) (kind : AssertionKind) (span : Span) : Except PatternError Plan :=
  let u := flags.unicode
  match kind with
  | .startLine => pure (.look (if flags.multiLine then (if flags.crlf then .startCRLF else .startLF) else .start))
  | .endLine => pure (.look (if flags.multiLine then (if flags.crlf then .endCRLF else .endLF) else .finish))
  | .startText => pure (.look .start)
  | .endText => pure (.look .finish)
  | .wordBoundary => pure (.look (.word u))
  | .notWordBoundary => if u then pure (.look (.notWord true)) else refuse span .invalidUtf8
  | .wordStart => pure (.look (.wordStart u))
  | .wordEnd => pure (.look (.wordEnd u))
  | .wordStartHalf => pure (.look (.wordStartHalf u))
  | .wordEndHalf => pure (.look (.wordEndHalf u))

mutual

/-- The plan of a tree with the flags in force; gives the plan and the flags in force after it. -/
def planOf (flags : Flags) : Ast → Except PatternError (Plan × Flags)
  | .empty => pure (.empty, flags)
  | .flags items => pure (.empty, flags.apply items)
  | .literal lit => do pure (← literalPlan flags lit, flags)
  | .dot span => do pure (← dotPlan flags span, flags)
  | .assertion kind span => do pure (← assertionPlan flags kind span, flags)
  | .cls node => do pure (.cls (← topClass flags node), flags)
  | .repetition min max body => do
    let (h, _) ← planOf flags body
    pure (.rep min max h, flags)
  | .group items body => do
    let inner := match items with
      | some fs => flags.apply fs
      | none => flags
    let (h, _) ← planOf inner body
    pure (h, flags)
  | .concat items => do
    let (hs, after) ← planList flags items
    pure (.concat hs, after)
  | .alternation items => do
    let (hs, after) ← planList flags items
    pure (.alt hs, after)

/-- The plans of a list of trees from left to right, the flags passing from each to the next. -/
def planList (flags : Flags) : List Ast → Except PatternError (List Plan × Flags)
  | [] => pure ([], flags)
  | a :: rest => do
    let (h, after) ← planOf flags a
    let (hs, final) ← planList after rest
    pure (h :: hs, final)

end

end Regex

end ChainWatch
