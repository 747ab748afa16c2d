import ChainWatch.Url.Host

/-!
# Reading URLs

`Url.parse` reads a URL without a base, the way web browsers do, and `Url.text` writes it back
in its normal form.

The text is first trimmed of control characters and spaces at both ends, and tabs and line
breaks are dropped wherever they are. A scheme is a letter followed by letters, digits, `+`, `-`
or `.`, up to a `:`; without one the text is relative, which needs a base. Then:

* the special schemes `http`, `https`, `ws`, `wss` and `ftp` ignore any slashes after the
  scheme and must have a host;
* `file` reads a host after two slashes, where an empty host and `localhost` stand for none;
* any other scheme has a host only after `//`; otherwise its path is kept as it is.

After the host come its number after `:`, the path, the query after `?` and the fragment after
`#`. A number equal to the default of the scheme is dropped. A path is read segment by segment: `.`
segments vanish, `..` segments remove the segment before them, and characters outside the
path set are percent-encoded.

The path is built as the text a URL shows, and edited as text, because that is what the rules
of dot segments and drive letters look at.
-/

namespace ChainWatch

/-- How a scheme shapes a URL. -/
inductive SchemeKind where
  | special
  | file
  | other
  deriving DecidableEq

/-- The kind of a scheme, given in lowercase. -/
def SchemeKind.of : String → SchemeKind
  | "http" | "https" | "ws" | "wss" | "ftp" => .special
  | "file" => .file
  | _ => .other

/-- Whether a kind of scheme is special: `file` is. -/
def SchemeKind.isSpecial : SchemeKind → Bool
  | .other => false
  | _ => true

/-- The number after the host that a scheme implies when none is given. -/
def defaultPort : String → Option Nat
  | "http" | "ws" => some 80
  | "https" | "wss" => some 443
  | "ftp" => some 21
  | _ => none

/-- A URL, in its parts. -/
structure Url where
  scheme : String
  /-- Whether `//` follows the scheme. -/
  authority : Bool
  /-- The user name and password as written before the host, with the `@`, or nothing. -/
  userinfo : List Char
  host : Option Host
  portNumber : Option Nat
  /-- The path as written. -/
  path : List Char
  query : Option (List Char)
  fragment : Option (List Char)

namespace Url

/-- The URL as text. A URL without host whose path starts with `//` gets `/.` before its path,
so that the path is not read back as a host. -/
def text (u : Url) : String :=
  let path := if !u.authority && u.host.isNone && u.path.take 2 = ['/', '/'] then ['/', '.'] ++ u.path
    else u.path
  u.scheme ++ ":" ++ (if u.authority then "//" else "") ++ String.ofList u.userinfo ++
    (u.host.map Host.text).getD "" ++ (u.portNumber.map (":" ++ Nat.repr ·)).getD "" ++ String.ofList path ++
    (u.query.map fun q => "?" ++ String.ofList q).getD "" ++
    (u.fragment.map fun f => "#" ++ String.ofList f).getD ""

end Url

/-! ### Windows drive letters -/

/-- Whether a text is a drive letter: a letter and `:` or `|`. -/
def isDriveLetter : List Char → Bool
  | [c, d] => isAsciiAlpha c && (d = ':' || d = '|')
  | _ => false

/-- Whether a text is a drive letter in normal form: a letter and `:`. -/
def isNormalDriveLetter : List Char → Bool
  | [c, ':'] => isAsciiAlpha c
  | _ => false

/-- Whether a text starts with a drive letter that is followed by nothing or by `/`, `\`, `?`
or `#`. -/
def startsWithDriveLetter : List Char → Bool
  | c :: d :: rest =>
    isAsciiAlpha c && (d = ':' || d = '|') &&
      (match rest with
        | [] => true
        | e :: _ => e = '/' || e = '\\' || e = '?' || e = '#')
  | _ => false

/-- Whether a path text starts with a delimiter and then a drive letter. -/
def pathStartsWithDriveLetter : List Char → Bool
  | c :: rest => (c = '/' || c = '\\' || c = '?' || c = '#') && startsWithDriveLetter rest
  | [] => false

/-! ### Paths -/

/-- A path being read: its text so far, last character first, where the current segment starts,
and whether the URL still has its host (a drive letter takes it away from a `file` URL). -/
structure PathBuffer where
  rev : List Char
  segmentStart : Nat
  hasHost : Bool

namespace PathBuffer

/-- The text of the path. -/
def chars (b : PathBuffer) : List Char := b.rev.reverse

/-- Keeps the first `n` characters. -/
def truncate (b : PathBuffer) (n : Nat) : PathBuffer := { b with rev := b.rev.drop (b.rev.length - n) }

/-- Adds characters at the end. -/
def push (b : PathBuffer) (cs : List Char) : PathBuffer := { b with rev := cs.reverse ++ b.rev }

/-- Whether the path ends with a slash. -/
def endsWithSlash (b : PathBuffer) : Bool := b.rev.head? = some '/'

/-- Where the last slash of a text is. -/
def lastSlash (cs : List Char) : Option Nat :=
  (cs.zipIdx.filter (·.1 = '/')).getLast?.map (·.2)

/-- Whether the slash ending the path may go: there is a slash before it in the path, and the
segment after that one is not a drive letter. -/
def lastSlashRemovable (b : PathBuffer) : Bool :=
  let cs := b.chars
  match lastSlash cs.dropLast with
  | some p => !pathStartsWithDriveLetter (cs.drop p)
  | none => false

/-- Removes the last segment of the path, unless it is a drive letter of a `file` URL. -/
def popSegment (kind : SchemeKind) (b : PathBuffer) : PathBuffer :=
  let cs := b.chars
  if cs.isEmpty then b
  else if kind = .file ∧ isNormalDriveLetter cs then b
  else match lastSlash cs with
    | some p =>
      if kind = .file ∧ isNormalDriveLetter (cs.drop (p + 1)) then b else b.truncate (p + 1)
    | none => b

/-- The segments that stand for the segment before them. -/
def isDoubleDot (seg : List Char) : Bool :=
  [[ '.', '.' ], ['%', '2', 'e', '%', '2', 'e'], ['%', '2', 'e', '%', '2', 'E'],
   ['%', '2', 'E', '%', '2', 'e'], ['%', '2', 'E', '%', '2', 'E'], ['%', '2', 'e', '.'],
   ['%', '2', 'E', '.'], ['.', '%', '2', 'e'], ['.', '%', '2', 'E']].contains seg

/-- The segments that stand for the current one. -/
def isSingleDot (seg : List Char) : Bool :=
  [['.'], ['%', '2', 'e'], ['%', '2', 'E']].contains seg

/-- Ends the current segment, after a slash when `slash` holds. -/
def endSegment (kind : SchemeKind) (slash : Bool) (b : PathBuffer) : PathBuffer :=
  let cs := b.chars
  let seg := (cs.drop b.segmentStart).take (cs.length - b.segmentStart - (if slash then 1 else 0))
  if isDoubleDot seg then
    let b := b.truncate b.segmentStart
    let b := if b.endsWithSlash && b.lastSlashRemovable then { b with rev := b.rev.tail } else b
    let b := popSegment kind b
    if slash && !b.endsWithSlash then b.push ['/'] else b
  else if isSingleDot seg then
    let b := b.truncate b.segmentStart
    if b.endsWithSlash then b else b.push ['/']
  else if kind = .file ∧ b.segmentStart = 1 ∧ isDriveLetter seg then
    let b := (b.truncate b.segmentStart).push (seg.take 1 ++ [':'] ++ (if slash then ['/'] else []))
    { b with hasHost := false }
  else b

/-- Reads path segments until `?`, `#` or the end: the path and what is left. -/
def read (kind : SchemeKind) : PathBuffer → List Char → PathBuffer × List Char
  | b, [] => (endSegment kind false b, [])
  | b, c :: cs =>
    if c = '/' || (c = '\\' && kind.isSpecial) then
      let b := endSegment kind true (b.push ['/'])
      read kind { b with segmentStart := b.rev.length } cs
    else if c = '?' || c = '#' then (endSegment kind false b, c :: cs)
    else
      let b := if kind = .file ∧ b.rev.length > 0 ∧ isNormalDriveLetter b.chars.tail then
          { b.push ['/'] with segmentStart := b.segmentStart + 1 }
        else b
      read kind (b.push (percentEncode .path c)) cs

/-- Reads a path that starts after `start`, which is the path text so far. -/
def readFrom (kind : SchemeKind) (hasHost : Bool) (start : List Char) (input : List Char) :
    PathBuffer × List Char :=
  let (b, rest) := read kind { rev := start.reverse, segmentStart := start.length, hasHost } input
  if kind = .file then ({ b with rev := (['/'] ++ b.chars.dropWhile (· = '/')).reverse }, rest)
  else (b, rest)

end PathBuffer

/-- Reads the path after a host: a special URL always has a path, starting with `/`; another
URL has none when `?`, `#` or the end comes first. -/
def readPathAfterHost (kind : SchemeKind) (input : List Char) : PathBuffer × List Char :=
  if kind.isSpecial then
    match input with
    | c :: cs => if c = '/' || c = '\\' then PathBuffer.readFrom kind true ['/'] cs
      else PathBuffer.readFrom kind true ['/'] input
    | [] => PathBuffer.readFrom kind true ['/'] []
  else
    match input with
    | [] => PathBuffer.readFrom kind true [] []
    | '?' :: _ | '#' :: _ => ({ rev := [], segmentStart := 0, hasHost := true }, input)
    | '/' :: cs => PathBuffer.readFrom kind true ['/'] cs
    | _ => PathBuffer.readFrom kind true ['/'] input

/-- Reads a path that is kept as it is, but for escaped control characters, up to `?` or `#`. -/
def readOpaquePath : List Char → List Char × List Char
  | [] => ([], [])
  | c :: cs =>
    if c = '?' || c = '#' then ([], c :: cs)
    else
      let (p, rest) := readOpaquePath cs
      (percentEncode .controls c ++ p, rest)

/-! ### Query and fragment -/

/-- Reads the query, if `?` comes next, and the fragment, if `#` comes then. -/
def readQueryAndFragment (kind : SchemeKind) (input : List Char) :
    Option (List Char) × Option (List Char) :=
  let set := if kind.isSpecial then EncodeSet.specialQuery else EncodeSet.query
  let fragment (cs : List Char) := some (percentEncodeAll .fragment cs)
  match input with
  | '?' :: rest =>
    let q := rest.takeWhile (· != '#')
    match rest.dropWhile (· != '#') with
    | _ :: f => (some (percentEncodeAll set q), fragment f)
    | [] => (some (percentEncodeAll set q), none)
  | '#' :: f => (none, fragment f)
  | _ => (none, none)

/-! ### Authority -/

/-- Where the user information ends: the position of the last `@` before the end of the
authority, and what follows it. -/
def lastAt (kind : SchemeKind) : Nat → List Char → Option (Nat × List Char)
  | _, [] => none
  | i, c :: cs =>
    if c = '/' || c = '?' || c = '#' || (c = '\\' && kind.isSpecial) then none
    else match lastAt kind (i + 1) cs with
      | some found => some found
      | none => if c = '@' then some (i, cs) else none

/-- Reads the user information: its text as written, with the `@`, and what follows. -/
def readUserinfo (kind : SchemeKind) (input : List Char) : Except UrlError (List Char × List Char) :=
  match lastAt kind 0 input with
  | none => pure ([], input)
  | some (0, rest) =>
    match rest with
    | c :: _ =>
      if c = '/' || c = '?' || c = '#' || (c = '\\' && kind.isSpecial) then throw .emptyHost
      else pure ([], rest)
    | [] => pure ([], rest)
  | some (n, rest) =>
    let info := input.take n
    let user := info.takeWhile (· != ':')
    let password := (info.dropWhile (· != ':')).drop 1
    let written := percentEncodeAll .userinfo user ++
      (if password.isEmpty then [] else ':' :: percentEncodeAll .userinfo password)
    pure (if written.isEmpty then [] else written ++ ['@'], rest)

/-- The text of a host and what follows it: up to a `:` outside brackets, `/`, `?`, `#`, or `\`
in a special URL. -/
def hostText (kind : SchemeKind) : Bool → List Char → List Char × List Char
  | _, [] => ([], [])
  | inside, c :: cs =>
    if (c = ':' && !inside) || c = '/' || c = '?' || c = '#' || (c = '\\' && kind.isSpecial) then
      ([], c :: cs)
    else
      let inside := if c = '[' then true else if c = ']' then false else inside
      let (h, rest) := hostText kind inside cs
      (c :: h, rest)

/-- Reads the number after the `:` of a host: digits up to a delimiter, at most 65535; the
default of the scheme and no digits at all give none. -/
def readPort (scheme : String) : Nat → Bool → List Char → Except UrlError (Option Nat × List Char)
  | n, any, [] => pure (if any && some n != defaultPort scheme then some n else none, [])
  | n, any, c :: cs =>
    if isAsciiDigit c then
      let n := 10 * n + (c.toNat - 48)
      if n > 65535 then throw .invalidPort else readPort scheme n true cs
    else if c = '/' || c = '\\' || c = '?' || c = '#' then
      pure (if any && some n != defaultPort scheme then some n else none, c :: cs)
    else throw .invalidPort

/-- Reads what follows `//`: user information, host and its number, path, query and fragment. -/
def readAuthority (scheme : String) (kind : SchemeKind) (input : List Char) : Except UrlError Url := do
  let (userinfo, rest) ← readUserinfo kind input
  let (text, rest) := hostText kind false rest
  if kind = .special ∧ text.isEmpty then throw .emptyHost
  let host ← if kind.isSpecial then Host.parse text else Host.parseOpaque text
  if host.isEmpty ∧ (rest.head? = some ':' ∨ kind.isSpecial) then throw .emptyHost
  let (portNumber, rest) ← match rest with
    | ':' :: more => readPort scheme 0 false more
    | _ => pure (none, rest)
  if host.isEmpty ∧ !userinfo.isEmpty then throw .emptyHost
  let (path, rest) := readPathAfterHost kind rest
  let (query, fragment) := readQueryAndFragment kind rest
  pure { scheme, authority := true, userinfo, host := if host.isEmpty then none else some host,
         portNumber, path := path.chars, query, fragment }

/-! ### `file` URLs -/

/-- The host text of a `file` URL and what follows: up to `/`, `\`, `?` or `#`. -/
def fileHostText (input : List Char) : List Char × List Char :=
  (input.takeWhile fun c => !(c = '/' || c = '\\' || c = '?' || c = '#'),
   input.dropWhile fun c => !(c = '/' || c = '\\' || c = '?' || c = '#'))

/-- Reads a `file` URL after `file:`. -/
def readFile (input : List Char) : Except UrlError Url := do
  let url (host : Option Host) (path : PathBuffer) (rest : List Char) : Url :=
    let (query, fragment) := readQueryAndFragment .file rest
    { scheme := "file", authority := true, userinfo := [], host := if path.hasHost then host else none,
      portNumber := none, path := path.chars, query, fragment }
  match input with
  | c :: d :: rest =>
    if (c = '/' || c = '\\') && (d = '/' || d = '\\') then
      let (text, after) := fileHostText rest
      let (host, after) ← if isDriveLetter text then pure (none, rest)
        else if text.isEmpty then pure (none, after)
        else do
          let h ← Host.parse text
          pure (if h = .domain "localhost" then none else some h, after)
      match host with
      | some h =>
        let (path, more) := readPathAfterHost .file after
        pure (url (some h) path more)
      | none =>
        let (path, more) := PathBuffer.readFrom .file false ['/'] after
        pure (url none path more)
    else if c = '/' || c = '\\' then
      let (path, more) := PathBuffer.readFrom .file false ['/'] (d :: rest)
      pure (url none path more)
    else
      let (path, more) := PathBuffer.readFrom .file false ['/'] input
      pure (url none path more)
  | [c] =>
    let (path, more) := PathBuffer.readFrom .file false ['/'] (if c = '/' || c = '\\' then [] else [c])
    pure (url none path more)
  | [] =>
    let (path, more) := PathBuffer.readFrom .file false ['/'] []
    pure (url none path more)

/-! ### Whole URLs -/

/-- The characters of a URL text that are read: control characters and spaces at both ends are
trimmed, tabs and line breaks are dropped. -/
def urlChars (s : String) : List Char :=
  let cs := s.toList
  let cs := (cs.dropWhile (·.toNat ≤ 0x20)).reverse.dropWhile (·.toNat ≤ 0x20) |>.reverse
  cs.filter fun c => c != '\t' && c != '\n' && c != '\r'

/-- The scheme of a URL in lowercase and what follows its `:`, if it has one. -/
def readScheme : List Char → Option (String × List Char)
  | c :: cs =>
    if !isAsciiAlpha c then none
    else
      let body := cs.takeWhile fun d => isAsciiAlpha d || isAsciiDigit d || d = '+' || d = '-' || d = '.'
      match cs.drop body.length with
      | ':' :: rest => some (String.ofList ((c :: body).map asciiLower), rest)
      | _ => none
  | [] => none

/-- Reads a URL without a base. -/
def Url.parse (s : String) : Except UrlError Url := do
  let some (scheme, rest) := readScheme (urlChars s) | throw .relativeWithoutBase
  match SchemeKind.of scheme with
  | .file => readFile rest
  | .special => readAuthority scheme .special (rest.dropWhile fun c => c = '/' || c = '\\')
  | .other =>
    match rest with
    | '/' :: '/' :: more => readAuthority scheme .other more
    | '/' :: more =>
      let (path, after) := PathBuffer.readFrom .other false ['/'] more
      let (query, fragment) := readQueryAndFragment .other after
      pure { scheme, authority := false, userinfo := [], host := none, portNumber := none,
             path := path.chars, query, fragment }
    | _ =>
      let (path, after) := readOpaquePath rest
      let (query, fragment) := readQueryAndFragment .other after
      pure { scheme, authority := false, userinfo := [], host := none, portNumber := none, path,
             query, fragment }

/-- The normal form of the address of a backing service. An address that reads as a URL with
a host is kept; one that does not, because it has no scheme or no host (such as
`localhost:8545`), is read again with `http://` before it. The text of the URL is given without
the slashes it ends with, so that paths can be added to it. -/
def normalizeServiceUrl (address : String) : Except UrlError String := do
  let url ← match Url.parse address with
    | .ok u => if u.host.isSome then pure u else Url.parse ("http://" ++ address)
    | .error .relativeWithoutBase => Url.parse ("http://" ++ address)
    | .error e => throw e
  if url.host.isNone then throw .emptyHost
  pure (String.ofList (url.text.toList.reverse.dropWhile (· = '/')).reverse)

end ChainWatch
