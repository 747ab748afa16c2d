import ChainWatch.Url.Idna
import ChainWatch.Url.Ip

/-!
# Hosts

The host of a URL is a domain, an IPv4 address or an IPv6 address.

* `Host.parse` reads the host of a URL with a special scheme: an IPv6 address in brackets, or a
  domain that is percent-decoded, turned into ASCII (`domainToAscii`), refused when that leaves
  nothing, and read as an IPv4 address when it ends in a number.
* `Host.parseOpaque` reads the host of any other URL: an IPv6 address in brackets, or text kept
  as it is but for escaped control characters, refusing the code points no host may hold.

`Host.text` writes a host as a URL shows it.
-/

namespace ChainWatch

/-- The host of a URL. -/
inductive Host where
  /-- A domain, or the text of an opaque host; empty for a URL whose host was left empty. -/
  | domain (name : String)
  | ipv4 (address : Nat)
  | ipv6 (pieces : List Nat)
  deriving DecidableEq

namespace Host

/-- The host as a URL shows it. -/
def text : Host → String
  | domain name => name
  | ipv4 a => ipv4Text a
  | ipv6 ps => "[" ++ ipv6Text ps ++ "]"

/-- Whether the host is the empty domain, which stands for no host at all. -/
def isEmpty : Host → Bool
  | domain name => name.isEmpty
  | _ => false

/-- An IPv6 host: the text must end with the closing bracket. -/
def bracketed (text : List Char) (inner : List Char) : Except UrlError Host :=
  if text.getLast? = some ']' then ipv6 <$> ipv6Parse inner.dropLast else throw .invalidIpv6

/-- Reads the host of a URL with a special scheme. -/
def parse (text : List Char) : Except UrlError Host :=
  match text with
  | '[' :: inner => bracketed text inner
  | _ =>
    let bytes := percentDecode ((String.ofList text).toUTF8.toList.map UInt8.toNat)
    match String.fromUTF8? (ByteArray.mk (bytes.map UInt8.ofNat).toArray) with
    | none => throw .idna
    | some decoded =>
      match domainToAscii (decoded.toList.map Char.toNat) with
      | none => throw .idna
      | some ascii =>
        if ascii.isEmpty then throw .emptyHost
        else if endsInNumber ascii then ipv4 <$> ipv4Parse ascii
        else pure (domain (String.ofList ascii))

/-- The code points no opaque host may hold. -/
def isForbidden (c : Char) : Bool :=
  ['\x00', '\t', '\n', '\r', ' ', '#', '/', ':', '<', '>', '?', '@', '[', '\\', ']', '^', '|'].contains c

/-- Reads the host of a URL with a scheme that is not special. -/
def parseOpaque (text : List Char) : Except UrlError Host :=
  match text with
  | '[' :: inner => bracketed text inner
  | _ =>
    if text.any isForbidden then throw .invalidDomainCharacter
    else pure (domain (String.ofList (percentEncodeAll .controls text)))

end Host

end ChainWatch
