import ChainWatch.Regex.Properties

/-!
# The syntax of regular expressions

`parsePattern` reads a pattern into an `Ast`, or says where and why it cannot: a `PatternError`
has a kind and the stretch of the pattern it is about (and, for a duplicate, the stretch of the
first occurrence). The syntax is that of the common regular expressions: literals and
escapes, `.`, `^`, `$`, classes in brackets with nested classes, ranges, ASCII classes such as
`[:alpha:]` and the operators `&&`, `--` and `~~`; Perl classes `\d`, `\s`, `\w`; Unicode classes
`\pL`, `\p{Greek}`, `\p{gc=Lu}`; word boundaries; groups, named groups and flag groups;
alternation; repetitions `?`, `*`, `+` and `{n}`, `{n,}`, `{n,m}`, each possibly lazy.

The reader is iterative: an open group and the concatenation before it are kept on a stack, and
so are open classes and the left sides of class operators. Each step of its loops takes at least
one character, so the length of the pattern bounds them.
-/

namespace ChainWatch

namespace Regex

/-- A place in a pattern: the index of a character, and its line and column, both from one. -/
structure Pos where
  index : Nat
  line : Nat
  column : Nat
  deriving DecidableEq, Repr

/-- A stretch of a pattern, from a place up to another. -/
structure Span where
  start : Pos
  stop : Pos
  deriving DecidableEq, Repr

/-- The empty stretch at a place. -/
def Span.splat (p : Pos) : Span := ⟨p, p⟩

/-- Why a pattern is refused. -/
inductive ErrorKind where
  | classEscapeInvalid
  | classRangeInvalid
  | classRangeLiteral
  | classUnclosed
  | decimalInvalid
  | escapeHexEmpty
  | escapeHexInvalid
  | escapeHexInvalidDigit
  | escapeUnexpectedEof
  | escapeUnrecognized
  | flagDanglingNegation
  | flagDuplicate
  | flagRepeatedNegation
  | flagUnexpectedEof
  | flagUnrecognized
  | groupNameDuplicate
  | groupNameEmpty
  | groupNameInvalid
  | groupNameUnexpectedEof
  | groupUnclosed
  | groupUnopened
  | repetitionCountInvalid
  | repetitionCountDecimalEmpty
  | repetitionCountUnclosed
  | repetitionMissing
  | specialWordBoundaryUnclosed
  | specialWordBoundaryUnrecognized
  | specialWordOrRepetitionUnexpectedEof
  | unicodeClassInvalid
  | unsupportedBackreference
  | unsupportedLookAround
  /-- A Unicode class or character where Unicode is switched off. -/
  | unicodeNotAllowed
  /-- Something that could match part of a character, where Unicode is switched off. -/
  | invalidUtf8
  | unicodePropertyNotFound
  | unicodePropertyValueNotFound
  deriving DecidableEq, Repr

/-- The text of an error kind. -/
def ErrorKind.message : ErrorKind → String
  | .classEscapeInvalid => "invalid escape sequence found in character class"
  | .classRangeInvalid => "invalid character class range, the start must be <= the end"
  | .classRangeLiteral => "invalid range boundary, must be a literal"
  | .classUnclosed => "unclosed character class"
  | .decimalInvalid => "decimal literal invalid"
  | .escapeHexEmpty => "hexadecimal literal empty"
  | .escapeHexInvalid => "hexadecimal literal is not a Unicode scalar value"
  | .escapeHexInvalidDigit => "invalid hexadecimal digit"
  | .escapeUnexpectedEof => "incomplete escape sequence, reached end of pattern prematurely"
  | .escapeUnrecognized => "unrecognized escape sequence"
  | .flagDanglingNegation => "dangling flag negation operator"
  | .flagDuplicate => "duplicate flag"
  | .flagRepeatedNegation => "flag negation operator repeated"
  | .flagUnexpectedEof => "expected flag but got end of regex"
  | .flagUnrecognized => "unrecognized flag"
  | .groupNameDuplicate => "duplicate capture group name"
  | .groupNameEmpty => "empty capture group name"
  | .groupNameInvalid => "invalid capture group character"
  | .groupNameUnexpectedEof => "unclosed capture group name"
  | .groupUnclosed => "unclosed group"
  | .groupUnopened => "unopened group"
  | .repetitionCountInvalid => "invalid repetition count range, the start must be <= the end"
  | .repetitionCountDecimalEmpty => "repetition quantifier expects a valid decimal"
  | .repetitionCountUnclosed => "unclosed counted repetition"
  | .repetitionMissing => "repetition operator missing expression"
  | .specialWordBoundaryUnclosed =>
    "special word boundary assertion is either unclosed or contains an invalid character"
  | .specialWordBoundaryUnrecognized =>
    "unrecognized special word boundary assertion, valid choices are: start, end, start-half or end-half"
  | .specialWordOrRepetitionUnexpectedEof =>
    "found either the beginning of a special word boundary or a bounded repetition on a \\b with an opening brace, but no closing brace"
  | .unicodeClassInvalid => "invalid Unicode character class"
  | .unsupportedBackreference => "backreferences are not supported"
  | .unsupportedLookAround => "look-around, including look-ahead and look-behind, is not supported"
  | .unicodeNotAllowed => "Unicode not allowed here"
  | .invalidUtf8 => "pattern can match invalid UTF-8"
  | .unicodePropertyNotFound => "Unicode property not found"
  | .unicodePropertyValueNotFound => "Unicode property value not found"

/-- A refused pattern: why, where, and where the first of two clashing parts is. -/
structure PatternError where
  kind : ErrorKind
  span : Span
  aux : Option Span := none
  deriving Repr

/-! ### The syntax tree -/

/-- The flags a group can set. -/
inductive Flag where
  | caseInsensitive
  | multiLine
  | dotMatchesNewLine
  | swapGreed
  | unicode
  | crlf
  | ignoreWhitespace
  deriving DecidableEq, Repr

/-- An item of a flag group: a flag, or the `-` that switches off the flags after it. -/
inductive FlagItem where
  | negation
  | flag (f : Flag)
  deriving DecidableEq, Repr

/-- Whether a list of flag items sets a flag on or off, if it names it. -/
def flagState (items : List FlagItem) (f : Flag) : Option Bool :=
  go false items
where
  /-- Reads the items with the negation seen so far. -/
  go (negated : Bool) : List FlagItem → Option Bool
    | [] => none
    | .negation :: rest => go true rest
    | .flag g :: rest => if g = f then some !negated else go negated rest

/-- A literal character, where it is written, and whether it is written as two hexadecimal digits
(`\x41`), which stands for a byte when Unicode is off. -/
structure Literal where
  c : Char
  span : Span
  hexByte : Bool := false
  deriving Repr

/-- The Perl classes: digits, spaces, word characters. -/
inductive PerlKind where
  | digit
  | space
  | word
  deriving DecidableEq, Repr

/-- The ASCII classes of brackets such as `[:alpha:]`. -/
inductive AsciiKind where
  | alnum | alpha | ascii | blank | cntrl | digit | graph | lower | print | punct | space | upper
  | word | xdigit
  deriving DecidableEq, Repr

/-- The ASCII class of a name. -/
def AsciiKind.ofName? : String → Option AsciiKind
  | "alnum" => some .alnum | "alpha" => some .alpha | "ascii" => some .ascii
  | "blank" => some .blank | "cntrl" => some .cntrl | "digit" => some .digit
  | "graph" => some .graph | "lower" => some .lower | "print" => some .print
  | "punct" => some .punct | "space" => some .space | "upper" => some .upper
  | "word" => some .word | "xdigit" => some .xdigit
  | _ => none

/-- How a Unicode class names its set: one letter, a name, or a property and a value (with `!=`
when the class is the complement). -/
inductive UnicodeName where
  | oneLetter (c : Char)
  | named (name : String)
  | namedValue (name value : String) (notEqual : Bool)
  deriving Repr

/-- The operators between classes in brackets. -/
inductive SetOp where
  | intersection
  | difference
  | symmetricDifference
  deriving DecidableEq, Repr

/-- A class of characters. -/
inductive ClassNode where
  | empty
  | literal (lit : Literal)
  | range (lo hi : Literal)
  | ascii (kind : AsciiKind) (negated : Bool) (span : Span)
  | perl (kind : PerlKind) (negated : Bool) (span : Span)
  | unicode (name : UnicodeName) (negated : Bool) (span : Span)
  | union (a b : ClassNode)
  | bracketed (negated : Bool) (body : ClassNode) (span : Span)
  | binop (op : SetOp) (lhs rhs : ClassNode)
  deriving Repr

/-- The union of the classes of a list. -/
def unionOf : List ClassNode → ClassNode
  | [] => .empty
  | [a] => a
  | a :: rest => .union a (unionOf rest)

/-- The zero-width assertions. -/
inductive AssertionKind where
  | startLine
  | endLine
  | startText
  | endText
  | wordBoundary
  | notWordBoundary
  | wordStart
  | wordEnd
  | wordStartHalf
  | wordEndHalf
  deriving DecidableEq, Repr

/-- The syntax tree of a pattern. -/
inductive Ast where
  | empty
  /-- A flag group `(?flags)`, setting flags for the rest of the enclosing group. -/
  | flags (items : List FlagItem)
  | literal (lit : Literal)
  | dot (span : Span)
  | assertion (kind : AssertionKind) (span : Span)
  | cls (node : ClassNode)
  /-- A repetition between `min` and `max` times (without bound for `none`). -/
  | repetition (min : Nat) (max : Option Nat) (body : Ast)
  /-- A group, with the flags it sets for its body. -/
  | group (flags : Option (List FlagItem)) (body : Ast)
  | concat (items : List Ast)
  | alternation (items : List Ast)
  deriving Repr

/-- Whether a tree is nothing a repetition may apply to. -/
def Ast.isBare : Ast → Bool
  | .empty | .flags _ => true
  | _ => false

/-- The tree of a concatenation kept in reverse. -/
def concatAst (reversed : List Ast) : Ast :=
  match reversed.reverse with
  | [] => .empty
  | [a] => a
  | items => .concat items

/-- What an escape or a single character stands for before it is placed. -/
inductive Primitive where
  | literal (lit : Literal)
  | assertion (kind : AssertionKind) (span : Span)
  | dot (span : Span)
  | perl (kind : PerlKind) (negated : Bool) (span : Span)
  | unicode (name : UnicodeName) (negated : Bool) (span : Span)

/-- Where a primitive is written. -/
def Primitive.span : Primitive → Span
  | .literal l => l.span
  | .assertion _ s | .dot s | .perl _ _ s | .unicode _ _ s => s

/-- A primitive as a tree. -/
def Primitive.toAst : Primitive → Ast
  | .literal l => .literal l
  | .assertion k s => .assertion k s
  | .dot s => .dot s
  | .perl k n s => .cls (.perl k n s)
  | .unicode u n s => .cls (.unicode u n s)

/-- A primitive as an item of a class: assertions and `.` are refused. -/
def Primitive.toClassItem : Primitive → Except PatternError ClassNode
  | .literal l => .ok (.literal l)
  | .perl k n s => .ok (.perl k n s)
  | .unicode u n s => .ok (.unicode u n s)
  | p => .error { kind := .classEscapeInvalid, span := p.span }

/-- A primitive as an end of a range: only a literal. -/
def Primitive.toClassLiteral : Primitive → Except PatternError Literal
  | .literal l => .ok l
  | p => .error { kind := .classRangeLiteral, span := p.span }

/-! ### The reader -/

/-- What the reader keeps of an open group. -/
inductive GroupFrame where
  /-- An open group: the concatenation before it (reversed), its flags, where its `(` is, and
  whether blanks were ignored before it. -/
  | group (concat : List Ast) (flags : Option (List FlagItem)) (openSpan : Span) (ignoreSpace : Bool)
  /-- The branches of an alternation read so far, reversed. -/
  | alternation (branches : List Ast)

/-- What the reader keeps of an open class. -/
inductive ClassFrame where
  /-- An open class: the items before it (reversed), whether it is negated, and its opening. -/
  | opened (items : List ClassNode) (negated : Bool) (span : Span)
  /-- The left side of an operator. -/
  | op (op : SetOp) (lhs : ClassNode)

/-- The state of the reader. -/
structure ParserState where
  pattern : Array Char
  pos : Pos
  ignoreSpace : Bool := false
  captureNames : List (String × Span) := []
  groups : List GroupFrame := []
  classes : List ClassFrame := []

/-- The reader: it keeps its state and may refuse the pattern. -/
abbrev Parser := StateT ParserState (Except PatternError)

namespace Parser

/-- Refuses the pattern. -/
def fail {α : Type} (span : Span) (kind : ErrorKind) : Parser α := throw { kind, span }

/-- The place of the reader. -/
def pos : Parser Pos := do return (← get).pos

/-- The length of the pattern. -/
def size : Parser Nat := do return (← get).pattern.size

/-- Whether the whole pattern is read. -/
def isEof : Parser Bool := do
  let s ← get
  return s.pattern.size ≤ s.pos.index

/-- The character at the reader, or a blank at the end. -/
def char : Parser Char := do
  let s ← get
  return s.pattern.getD s.pos.index ' '

/-- The place after the character at `p`. -/
def after (p : Pos) (c : Char) : Pos :=
  if c = '\n' then ⟨p.index + 1, p.line + 1, 1⟩ else ⟨p.index + 1, p.line, p.column + 1⟩

/-- Moves past the character at the reader; whether a character follows. -/
def bump : Parser Bool := do
  let s ← get
  if s.pattern.size ≤ s.pos.index then return false
  let p := after s.pos (s.pattern.getD s.pos.index ' ')
  set { s with pos := p }
  return p.index < s.pattern.size

/-- The stretch of the character at the reader. -/
def spanChar : Parser Span := do
  let s ← get
  return ⟨s.pos, after s.pos (s.pattern.getD s.pos.index ' ')⟩

/-- The character after the one at the reader. -/
def peek : Parser (Option Char) := do
  let s ← get
  if s.pattern.size ≤ s.pos.index then return none
  return s.pattern[s.pos.index + 1]?

/-- Whether the pattern goes on with `text` at the reader. -/
def startsWith (text : List Char) : Parser Bool := do
  let s ← get
  return (s.pattern.toList.drop s.pos.index).take text.length = text

/-- Moves past `text` if the pattern goes on with it. -/
def bumpIf (text : List Char) : Parser Bool := do
  if ← startsWith text then
    for _ in text do
      discard bump
    return true
  else return false

/-- Whether a character is white space. -/
def isBlank (c : Char) : Bool := isWhiteSpace c.toNat

/-- Skips blanks and comments when blanks are ignored. -/
def bumpSpace : Parser Unit := do
  if !(← get).ignoreSpace then return
  let n ← size
  for _ in [0:n + 1] do
    if ← isEof then break
    let c ← char
    if isBlank c then discard bump
    else if c = '#' then
      discard bump
      for _ in [0:n + 1] do
        if ← isEof then break
        let d ← char
        discard bump
        if d = '\n' then break
    else break

/-- Moves past the character at the reader and the blanks after it; whether more follows. -/
def bumpAndBumpSpace : Parser Bool := do
  if !(← bump) then return false
  bumpSpace
  return !(← isEof)

/-- The next character after the one at the reader that is not a blank when blanks are
ignored. Inside a comment the first character that is not a blank is taken, and when only
blanks follow, the character right after the reader is. -/
def peekSpace : Parser (Option Char) := do
  let s ← get
  if !s.ignoreSpace then return ← peek
  if s.pattern.size ≤ s.pos.index then return none
  let start := s.pos.index + 1
  let mut found := start
  let mut inComment := false
  for i in [start:s.pattern.size] do
    let c := s.pattern.getD i ' '
    if isBlank c then continue
    else if !inComment && c = '#' then inComment := true
    else if inComment && c = '\n' then inComment := false
    else
      found := i
      break
  return s.pattern[found]?

/-- The characters of the pattern from index `a` up to index `b`. -/
def slice (a b : Nat) : Parser String := do
  return String.ofList (((← get).pattern.toList.drop a).take (b - a))

/-- Whether a character may be in the name of a group (`first` for its first character). -/
def isCaptureChar (c : Char) (first : Bool) : Bool :=
  if first then c = '_' || isAlphabetic c.toNat
  else c = '_' || c = '.' || c = '[' || c = ']' || isAlphabetic c.toNat || isNumeric c.toNat

/-- Whether a character has a meaning of its own and may be escaped to stand for itself. -/
def isMetaCharacter (c : Char) : Bool :=
  "\\.+*?()|[]\x7b\x7d^$#&-~".toList.contains c

/-- Whether a character may be escaped to stand for itself: the meta characters and every ASCII
character that is not a letter, a digit, `<` or `>`. -/
def isEscapeable (c : Char) : Bool :=
  isMetaCharacter c ||
    (c.toNat ≤ 0x7F && !c.isAlphanum && c != '<' && c != '>')

/-- Whether a character is a hexadecimal digit. -/
def isHex (c : Char) : Bool :=
  ('0' ≤ c && c ≤ '9') || ('a' ≤ c && c ≤ 'f') || ('A' ≤ c && c ≤ 'F')

/-- The value of hexadecimal digits. -/
def hexDigitsValue (cs : List Char) : Nat := Unicode.hexValue (String.ofList cs)

/-- Whether a number is a Unicode scalar value. -/
def isScalar (n : Nat) : Bool := n < 0x110000 && !(0xD800 ≤ n && n ≤ 0xDFFF)

/-- Reads a fixed number of hexadecimal digits after `\x`, `\u` or `\U`. -/
def parseHexDigits (count : Nat) : Parser Literal := do
  let start ← pos
  let mut digits : List Char := []
  for i in [0:count] do
    if i > 0 then
      if !(← bumpAndBumpSpace) then fail (.splat (← pos)) .escapeUnexpectedEof
    let c ← char
    if !isHex c then fail (← spanChar) .escapeHexInvalidDigit
    digits := digits ++ [c]
  discard bumpAndBumpSpace
  let stop ← pos
  let v := hexDigitsValue digits
  if !isScalar v then fail ⟨start, stop⟩ .escapeHexInvalid
  return { c := Char.ofNat v, span := ⟨start, stop⟩, hexByte := count = 2 }

/-- Reads hexadecimal digits in braces after `\x`, `\u` or `\U`. -/
def parseHexBrace : Parser Literal := do
  let bracePos ← pos
  let start := (← spanChar).stop
  let mut digits : List Char := []
  let n ← size
  for _ in [0:n + 1] do
    if !(← bumpAndBumpSpace) then break
    let c ← char
    if c = '}' then break
    if !isHex c then fail (← spanChar) .escapeHexInvalidDigit
    digits := digits ++ [c]
  if ← isEof then fail ⟨bracePos, ← pos⟩ .escapeUnexpectedEof
  let stop ← pos
  discard bumpAndBumpSpace
  if digits.isEmpty then fail ⟨bracePos, ← pos⟩ .escapeHexEmpty
  let v := hexDigitsValue digits
  if !isScalar v then fail ⟨start, stop⟩ .escapeHexInvalid
  return { c := Char.ofNat v, span := ⟨start, ← pos⟩ }

/-- Reads a hexadecimal escape at its letter. -/
def parseHex : Parser Literal := do
  let c ← char
  let count := if c = 'x' then 2 else if c = 'u' then 4 else 8
  if !(← bumpAndBumpSpace) then fail (.splat (← pos)) .escapeUnexpectedEof
  if (← char) = '{' then parseHexBrace else parseHexDigits count

/-- Splits the name of a Unicode class at its first `!=`, `:` or `=`. -/
def splitClassName (name : String) : UnicodeName :=
  match name.splitOn "!=" with
  | first :: second :: more => .namedValue first (String.intercalate "!=" (second :: more)) true
  | _ =>
    match name.splitOn ":" with
    | first :: second :: more => .namedValue first (String.intercalate ":" (second :: more)) false
    | _ =>
      match name.splitOn "=" with
      | first :: second :: more => .namedValue first (String.intercalate "=" (second :: more)) false
      | _ => .named name

/-- Reads a Unicode class at its `p` or `P`: its name, whether it is negated, and its stretch
from after the letter. -/
def parseUnicodeClass : Parser (UnicodeName × Bool × Span) := do
  let negated := (← char) = 'P'
  if !(← bumpAndBumpSpace) then fail (.splat (← pos)) .escapeUnexpectedEof
  if (← char) = '{' then
    let start := (← spanChar).stop
    let mut name : List Char := []
    let n ← size
    for _ in [0:n + 1] do
      if !(← bumpAndBumpSpace) then break
      let c ← char
      if c = '}' then break
      name := name ++ [c]
    if ← isEof then fail (.splat (← pos)) .escapeUnexpectedEof
    discard bump
    return (splitClassName (String.ofList name), negated, ⟨start, ← pos⟩)
  else
    let start ← pos
    let c ← char
    if c = '\\' then fail (← spanChar) .unicodeClassInvalid
    discard bumpAndBumpSpace
    return (.oneLetter c, negated, ⟨start, ← pos⟩)

/-- After `\b`, at a `{`: reads a special word boundary such as `\b{start}`, or goes back and
gives `none` when the brace does not start one. -/
def maybeParseSpecialWordBoundary (wbStart : Pos) : Parser (Option AssertionKind) := do
  let isValid (c : Char) : Bool := ('A' ≤ c && c ≤ 'Z') || ('a' ≤ c && c ≤ 'z') || c = '-'
  let start ← pos
  if !(← bumpAndBumpSpace) then fail ⟨wbStart, ← pos⟩ .specialWordOrRepetitionUnexpectedEof
  let startContents ← pos
  if !isValid (← char) then
    modify fun s => { s with pos := start }
    return none
  let mut word : List Char := []
  let n ← size
  for _ in [0:n + 1] do
    if (← isEof) || !isValid (← char) then break
    word := word ++ [← char]
    discard bumpAndBumpSpace
  if (← isEof) || (← char) != '}' then fail ⟨start, ← pos⟩ .specialWordBoundaryUnclosed
  let stop ← pos
  discard bump
  match String.ofList word with
  | "start" => return some .wordStart
  | "end" => return some .wordEnd
  | "start-half" => return some .wordStartHalf
  | "end-half" => return some .wordEndHalf
  | _ => fail ⟨startContents, stop⟩ .specialWordBoundaryUnrecognized

/-- Reads an escape at its backslash. -/
def parseEscape : Parser Primitive := do
  let start ← pos
  if !(← bump) then fail ⟨start, ← pos⟩ .escapeUnexpectedEof
  let c ← char
  if '0' ≤ c && c ≤ '9' then fail ⟨start, (← spanChar).stop⟩ .unsupportedBackreference
  if c = 'x' || c = 'u' || c = 'U' then
    let lit ← parseHex
    return .literal { lit with span := ⟨start, lit.span.stop⟩ }
  if c = 'p' || c = 'P' then
    let (name, negated, span) ← parseUnicodeClass
    return .unicode name negated ⟨start, span.stop⟩
  if "dswDSW".toList.contains c then
    let span ← spanChar
    discard bump
    let kind := if c = 'd' || c = 'D' then PerlKind.digit else if c = 's' || c = 'S' then .space else .word
    return .perl kind (c = 'D' || c = 'S' || c = 'W') ⟨start, span.stop⟩
  discard bump
  let span : Span := ⟨start, ← pos⟩
  if isEscapeable c then return .literal { c, span }
  match c with
  | 'a' => return .literal { c := '\x07', span }
  | 'f' => return .literal { c := '\x0C', span }
  | 't' => return .literal { c := '\t', span }
  | 'n' => return .literal { c := '\n', span }
  | 'r' => return .literal { c := '\r', span }
  | 'v' => return .literal { c := '\x0B', span }
  | 'A' => return .assertion .startText span
  | 'z' => return .assertion .endText span
  | 'b' =>
    if !(← isEof) && (← char) = '{' then
      match ← maybeParseSpecialWordBoundary start with
      | some kind => return .assertion kind ⟨start, ← pos⟩
      | none => return .assertion .wordBoundary span
    else return .assertion .wordBoundary span
  | 'B' => return .assertion .notWordBoundary span
  | '<' => return .assertion .wordStart span
  | '>' => return .assertion .wordEnd span
  | _ => fail span .escapeUnrecognized

/-- Reads a primitive: an escape, `.`, `^`, `$` or a literal character. -/
def parsePrimitive : Parser Primitive := do
  let c ← char
  if c = '\\' then return ← parseEscape
  let span ← spanChar
  discard bump
  if c = '.' then return .dot span
  if c = '^' then return .assertion .startLine span
  if c = '$' then return .assertion .endLine span
  return .literal { c, span }

/-- Reads a decimal number of a counted repetition, blanks around it allowed. -/
def parseDecimal : Parser Nat := do
  let n ← size
  for _ in [0:n + 1] do
    if (← isEof) || !isBlank (← char) then break
    discard bump
  let start ← pos
  let mut digits : List Char := []
  for _ in [0:n + 1] do
    if (← isEof) then break
    let c ← char
    if !('0' ≤ c && c ≤ '9') then break
    digits := digits ++ [c]
    discard bumpAndBumpSpace
  let span : Span := ⟨start, ← pos⟩
  for _ in [0:n + 1] do
    if (← isEof) || !isBlank (← char) then break
    discard bumpAndBumpSpace
  if digits.isEmpty then fail span .repetitionCountDecimalEmpty
  let v := digits.foldl (fun acc d => acc * 10 + (d.toNat - '0'.toNat)) 0
  if v > 4294967295 then fail span .decimalInvalid
  return v

/-- Applies `?`, `*` or `+` at the reader to the last item of a concatenation (reversed). -/
def parseUncountedRepetition (concat : List Ast) (min : Nat) (max : Option Nat) :
    Parser (List Ast) := do
  match concat with
  | [] => fail (.splat (← pos)) .repetitionMissing
  | ast :: rest =>
    if ast.isBare then fail (.splat (← pos)) .repetitionMissing
    if (← bump) && (← char) = '?' then discard bump
    return .repetition min max ast :: rest

/-- Applies a counted repetition at its `{` to the last item of a concatenation (reversed). -/
def parseCountedRepetition (concat : List Ast) : Parser (List Ast) := do
  let start ← pos
  match concat with
  | [] => fail (.splat (← pos)) .repetitionMissing
  | ast :: rest =>
    if ast.isBare then fail (.splat (← pos)) .repetitionMissing
    if !(← bumpAndBumpSpace) then fail ⟨start, ← pos⟩ .repetitionCountUnclosed
    let low ← parseDecimal
    let mut high : Option Nat := some low
    if ← isEof then fail ⟨start, ← pos⟩ .repetitionCountUnclosed
    if (← char) = ',' then
      if !(← bumpAndBumpSpace) then fail ⟨start, ← pos⟩ .repetitionCountUnclosed
      if (← char) != '}' then high := some (← parseDecimal)
      else high := none
    if (← isEof) || (← char) != '}' then fail ⟨start, ← pos⟩ .repetitionCountUnclosed
    if (← bumpAndBumpSpace) && (← char) = '?' then discard bump
    let opSpan : Span := ⟨start, ← pos⟩
    if high.any (fun h => decide (h < low)) then fail opSpan .repetitionCountInvalid
    return .repetition low high ast :: rest

/-- Reads the flags of a group after its `(?`, up to the `:` or `)`. -/
def parseFlags : Parser (List FlagItem) := do
  let n ← size
  let mut items : List (FlagItem × Span) := []
  let mut lastNegation : Option Span := none
  for _ in [0:n + 1] do
    let c ← char
    if c = ':' || c = ')' then break
    let span ← spanChar
    if c = '-' then
      lastNegation := some span
      match items.find? (·.1 = .negation) with
      | some (_, earlier) => throw { kind := .flagRepeatedNegation, span, aux := some earlier }
      | none => items := items ++ [(.negation, span)]
    else
      lastNegation := none
      let flag ← match c with
        | 'i' => pure Flag.caseInsensitive
        | 'm' => pure .multiLine
        | 's' => pure .dotMatchesNewLine
        | 'U' => pure .swapGreed
        | 'u' => pure .unicode
        | 'R' => pure .crlf
        | 'x' => pure .ignoreWhitespace
        | _ => fail span .flagUnrecognized
      match items.find? (·.1 = .flag flag) with
      | some (_, earlier) => throw { kind := .flagDuplicate, span, aux := some earlier }
      | none => items := items ++ [(.flag flag, span)]
    if !(← bump) then fail (.splat (← pos)) .flagUnexpectedEof
  if let some span := lastNegation then fail span .flagDanglingNegation
  return items.map (·.1)

/-- Reads the name of a group after its `(?P<` or `(?<`, and its `>`, and records it. -/
def parseCaptureName : Parser Unit := do
  if ← isEof then fail (.splat (← pos)) .groupNameUnexpectedEof
  let start ← pos
  let n ← size
  for _ in [0:n + 1] do
    let c ← char
    if c = '>' then break
    if !isCaptureChar c ((← pos) = start) then fail (← spanChar) .groupNameInvalid
    if !(← bump) then break
  let stop ← pos
  if ← isEof then fail (.splat (← pos)) .groupNameUnexpectedEof
  discard bump
  let name ← slice start.index stop.index
  if name.isEmpty then fail ⟨start, start⟩ .groupNameEmpty
  let span : Span := ⟨start, stop⟩
  match (← get).captureNames.find? (·.1 = name) with
  | some (_, earlier) => throw { kind := .groupNameDuplicate, span, aux := some earlier }
  | none => modify fun s => { s with captureNames := (name, span) :: s.captureNames }

/-- Reads the opening of a group at its `(`: the flags of a flag group, or the flags and the
opening of a group with a body. -/
def parseGroup : Parser (List FlagItem ⊕ (Option (List FlagItem) × Span)) := do
  let openSpan ← spanChar
  discard bump
  bumpSpace
  let lookAround ← do
    if ← bumpIf ['?', '='] then pure true
    else if ← bumpIf ['?', '!'] then pure true
    else if ← bumpIf ['?', '<', '='] then pure true
    else bumpIf ['?', '<', '!']
  if lookAround then fail ⟨openSpan.start, ← pos⟩ .unsupportedLookAround
  let innerSpan := Span.splat (← pos)
  let named ← do
    if ← bumpIf ['?', 'P', '<'] then pure true else bumpIf ['?', '<']
  if named then
    parseCaptureName
    return .inr (none, openSpan)
  if ← bumpIf ['?'] then
    if ← isEof then fail openSpan .groupUnclosed
    let flags ← parseFlags
    let charEnd ← char
    discard bump
    if charEnd = ')' then
      if flags.isEmpty then fail innerSpan .repetitionMissing
      return .inl flags
    return .inr (some flags, openSpan)
  return .inr (none, openSpan)

/-- Opens a group at its `(`, or reads a flag group, after a concatenation (reversed). -/
def pushGroup (concat : List Ast) : Parser (List Ast) := do
  match ← parseGroup with
  | .inl flags =>
    if let some v := flagState flags .ignoreWhitespace then
      modify fun s => { s with ignoreSpace := v }
    return .flags flags :: concat
  | .inr (flags, openSpan) =>
    let old := (← get).ignoreSpace
    let new := ((flags.bind fun f => flagState f .ignoreWhitespace)).getD old
    modify fun s => { s with groups := .group concat flags openSpan old :: s.groups, ignoreSpace := new }
    return []

/-- Closes a group at its `)`, with the concatenation read in it (reversed). -/
def popGroup (groupConcat : List Ast) : Parser (List Ast) := do
  let (prior, flags, ignore, alt, rest) ← match (← get).groups with
    | .group concat flags _ ignore :: rest => pure (concat, flags, ignore, none, rest)
    | .alternation alt :: .group concat flags _ ignore :: rest => pure (concat, flags, ignore, some alt, rest)
    | _ => fail (← spanChar) .groupUnopened
  modify fun s => { s with ignoreSpace := ignore, groups := rest }
  discard bump
  let body := match alt with
    | some branches => Ast.alternation (branches.reverse ++ [concatAst groupConcat])
    | none => concatAst groupConcat
  return .group flags body :: prior

/-- Ends a branch of an alternation at its `|`. -/
def pushAlternate (concat : List Ast) : Parser (List Ast) := do
  let branch := concatAst concat
  modify fun s => match s.groups with
    | .alternation branches :: rest => { s with groups := .alternation (branch :: branches) :: rest }
    | gs => { s with groups := .alternation [branch] :: gs }
  discard bump
  return []

/-- Ends the pattern: no group may be open. -/
def popGroupEnd (concat : List Ast) : Parser Ast := do
  match (← get).groups with
  | [] => return concatAst concat
  | .alternation branches :: rest =>
    match rest with
    | .group _ _ openSpan _ :: _ => fail openSpan .groupUnclosed
    | _ => return .alternation (branches.reverse ++ [concatAst concat])
  | .group _ _ openSpan _ :: _ => fail openSpan .groupUnclosed

/-! ### Classes in brackets -/

/-- The error for a class left open: at the opening of the innermost open class. -/
def unclosedClass {α : Type} : Parser α := do
  match (← get).classes.find? (fun | .opened .. => true | _ => false) with
  | some (.opened _ _ span) => fail span .classUnclosed
  | _ => fail (.splat (← pos)) .classUnclosed

/-- Reads an ASCII class such as `[:alpha:]` at its `[`, or goes back and gives `none`. -/
def maybeParseAsciiClass : Parser (Option ClassNode) := do
  let start ← pos
  let back : Parser (Option ClassNode) := do
    modify fun s => { s with pos := start }
    return none
  if !(← bump) || (← char) != ':' then return ← back
  if !(← bump) then return ← back
  let mut negated := false
  if (← char) = '^' then
    negated := true
    if !(← bump) then return ← back
  let nameStart := (← pos).index
  let n ← size
  for _ in [0:n + 1] do
    if (← char) = ':' then break
    if !(← bump) then break
  if ← isEof then return ← back
  let name ← slice nameStart (← pos).index
  if !(← bumpIf [':', ']']) then return ← back
  match AsciiKind.ofName? name with
  | some kind => return some (.ascii kind negated ⟨start, ← pos⟩)
  | none => back

/-- Reads an item of a class: an escape or a literal character. -/
def parseSetClassItem : Parser Primitive := do
  if (← char) = '\\' then parseEscape
  else
    let span ← spanChar
    let c ← char
    discard bump
    return .literal { c, span }

/-- Reads an item of a class, or a range of two literals. -/
def parseSetClassRange : Parser ClassNode := do
  let prim1 ← parseSetClassItem
  bumpSpace
  if ← isEof then unclosedClass
  let next ← peekSpace
  if (← char) != '-' || next = some ']' || next = some '-' then
    return ← liftExcept prim1.toClassItem
  if !(← bumpAndBumpSpace) then unclosedClass
  let prim2 ← parseSetClassItem
  let span : Span := ⟨prim1.span.start, prim2.span.stop⟩
  let lo ← liftExcept prim1.toClassLiteral
  let hi ← liftExcept prim2.toClassLiteral
  if lo.c > hi.c then fail span .classRangeInvalid
  return .range lo hi
where
  /-- A refusal of a conversion as a refusal of the reader. -/
  liftExcept {α : Type} : Except PatternError α → Parser α
    | .ok a => pure a
    | .error e => throw e

/-- Reads the opening of a class at its `[`: whether it is negated, its opening, and the items
that a leading `-` or `]` stands for. -/
def parseSetClassOpen : Parser (Bool × Span × List ClassNode) := do
  let start ← pos
  if !(← bumpAndBumpSpace) then fail ⟨start, ← pos⟩ .classUnclosed
  let mut negated := false
  if (← char) = '^' then
    negated := true
    if !(← bumpAndBumpSpace) then fail ⟨start, ← pos⟩ .classUnclosed
  let mut items : List ClassNode := []
  let n ← size
  for _ in [0:n + 1] do
    if (← char) != '-' then break
    items := .literal { c := '-', span := ← spanChar } :: items
    if !(← bumpAndBumpSpace) then fail ⟨start, start⟩ .classUnclosed
  if items.isEmpty && (← char) = ']' then
    items := .literal { c := ']', span := ← spanChar } :: items
    if !(← bumpAndBumpSpace) then fail ⟨start, ← pos⟩ .classUnclosed
  return (negated, ⟨start, ← pos⟩, items)

/-- Opens a class at its `[`, after the items of the enclosing class (reversed). -/
def pushClassOpen (parent : List ClassNode) : Parser (List ClassNode) := do
  let (negated, span, items) ← parseSetClassOpen
  modify fun s => { s with classes := .opened parent negated span :: s.classes }
  return items

/-- Joins a right side to a pending operator, if one is waiting. -/
def popClassOp (rhs : ClassNode) : Parser ClassNode := do
  match (← get).classes with
  | .op kind lhs :: rest =>
    modify fun s => { s with classes := rest }
    return .binop kind lhs rhs
  | _ => return rhs

/-- Starts an operator after the items read (reversed), which become its left side. -/
def pushClassOp (kind : SetOp) (items : List ClassNode) : Parser (List ClassNode) := do
  let lhs ← popClassOp (unionOf items.reverse)
  modify fun s => { s with classes := .op kind lhs :: s.classes }
  return []

/-- Closes a class at its `]`: the items of the enclosing class with it, or the outermost class. -/
def popClass (items : List ClassNode) : Parser (List ClassNode ⊕ ClassNode) := do
  let body ← popClassOp (unionOf items.reverse)
  match (← get).classes with
  | .opened parent negated span :: rest =>
    modify fun s => { s with classes := rest }
    discard bump
    let node := ClassNode.bracketed negated body ⟨span.start, ← pos⟩
    if rest.isEmpty then return .inr node else return .inl (node :: parent)
  | _ => return .inr body

/-- Reads a class in brackets at its `[`. -/
def parseSetClass : Parser ClassNode := do
  let n ← size
  let mut items : List ClassNode := []
  for _ in [0:n + 2] do
    bumpSpace
    if ← isEof then unclosedClass
    let c ← char
    let next ← peek
    if c = '[' then
      if !(← get).classes.isEmpty then
        if let some item ← maybeParseAsciiClass then
          items := item :: items
          continue
      items ← pushClassOpen items
    else if c = ']' then
      match ← popClass items with
      | .inl enclosing => items := enclosing
      | .inr node => return node
    else if c = '&' && next = some '&' then
      discard (bumpIf ['&', '&'])
      items ← pushClassOp .intersection items
    else if c = '-' && next = some '-' then
      discard (bumpIf ['-', '-'])
      items ← pushClassOp .difference items
    else if c = '~' && next = some '~' then
      discard (bumpIf ['~', '~'])
      items ← pushClassOp .symmetricDifference items
    else
      items := (← parseSetClassRange) :: items
  unclosedClass

/-- Reads a whole pattern. -/
def parseAll : Parser Ast := do
  let n ← size
  let mut concat : List Ast := []
  for _ in [0:n + 1] do
    bumpSpace
    if ← isEof then break
    let c ← char
    if c = '(' then concat ← pushGroup concat
    else if c = ')' then concat ← popGroup concat
    else if c = '|' then concat ← pushAlternate concat
    else if c = '[' then concat := .cls (← parseSetClass) :: concat
    else if c = '?' then concat ← parseUncountedRepetition concat 0 (some 1)
    else if c = '*' then concat ← parseUncountedRepetition concat 0 none
    else if c = '+' then concat ← parseUncountedRepetition concat 1 none
    else if c = '{' then concat ← parseCountedRepetition concat
    else concat := (← parsePrimitive).toAst :: concat
  popGroupEnd concat

end Parser

/-- Reads a pattern into its syntax tree. -/
def parsePattern (pattern : String) : Except PatternError Ast :=
  Parser.parseAll.run' { pattern := pattern.toList.toArray, pos := ⟨0, 1, 1⟩ }

end Regex

end ChainWatch
