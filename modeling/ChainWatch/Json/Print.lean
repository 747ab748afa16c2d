import ChainWatch.Json.Value
import ChainWatch.Binary64.Text

/-!
# Writing JSON text

`Json.render` writes a value compactly: no blanks, members in their stored order, numbers as
decimal integers or as the standard text of a binary64 number (`Binary64.toText`), and strings
with the quote, the backslash and the control characters escaped.
-/

namespace ChainWatch

namespace Json

/-- Four lowercase hexadecimal digits of a number below `2 ^ 16`. -/
def hex4 (n : Nat) : String :=
  let d (k : Nat) : Char := "0123456789abcdef".toList.getD ((n / Nat.pow 16 k) % 16) '0'
  String.ofList [d 3, d 2, d 1, d 0]

/-- The escaped form of one character inside a JSON string. -/
def escapeChar (c : Char) : String :=
  if c == '"' then "\\\""
  else if c == '\\' then "\\\\"
  else if c == '\n' then "\\n"
  else if c == '\r' then "\\r"
  else if c == '\t' then "\\t"
  else if c == '\x08' then "\\b"
  else if c == '\x0c' then "\\f"
  else if c.toNat < 0x20 then "\\u" ++ hex4 c.toNat
  else String.singleton c

/-- A string as a JSON string literal. -/
def quote (s : String) : String :=
  "\"" ++ String.join (s.toList.map escapeChar) ++ "\""

/-- The decimal text of an integer. -/
def intText (n : Int) : String := if n < 0 then "-" ++ Nat.repr n.natAbs else Nat.repr n.natAbs

mutual

/-- The compact text of a value. -/
def render : Json → String
  | null => "null"
  | bool true => "true"
  | bool false => "false"
  | nat n => Nat.repr n
  | neg n => intText n
  | float x => Binary64.toText x
  | str s => quote s
  | arr xs => "[" ++ renderItems xs ++ "]"
  | obj ms => "\x7b" ++ renderMembers ms ++ "\x7d"

/-- The items of an array, separated by commas. -/
def renderItems : List Json → String
  | [] => ""
  | [x] => render x
  | x :: rest => render x ++ "," ++ renderItems rest

/-- The members of an object, separated by commas. -/
def renderMembers : List (String × Json) → String
  | [] => ""
  | [(k, v)] => quote k ++ ":" ++ render v
  | (k, v) :: rest => quote k ++ ":" ++ render v ++ "," ++ renderMembers rest

end

end Json

end ChainWatch
