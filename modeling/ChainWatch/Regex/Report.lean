import ChainWatch.Regex.Syntax

/-!
# Reports of refused patterns

`PatternError.report` writes why a pattern was refused, under the pattern with carets below the
stretches the error is about:

```text
regex parse error:
    (?P<n
         ^
error: unclosed capture group name
```

Each line of the pattern is written after four blanks, or, when the pattern has several lines,
after its number and a colon between two rules of tildes. A stretch on one line is marked by
carets under its characters (one caret for an empty stretch); a stretch over several lines is
named by its lines and columns after the pattern.
-/

namespace ChainWatch

namespace Regex

/-- The lines of a text: cut at each line feed, a carriage return before a line feed dropped,
and no line after a final line feed. -/
def textLines (s : String) : List String :=
  if s.isEmpty then []
  else
    let pieces := s.splitOn "\n"
    let ended := pieces.dropLast.map fun l => if l.endsWith "\r" then String.ofList l.toList.dropLast else l
    let last := pieces.getLast?.getD ""
    if last.isEmpty then ended else ended ++ [last]

/-- `n` copies of a character. -/
def repeatChar (c : Char) (n : Nat) : String := String.ofList (List.replicate n c)

/-- The carets of the stretches on one line, after `padding` blanks: each stretch from its first
column, at least one caret long. -/
def caretLine (padding : Nat) (spans : List Span) : String :=
  let (text, _) := spans.foldl (fun (acc : String × Nat) sp =>
    let (text, col) := acc
    let gap := sp.start.column - 1 - col
    let width := max 1 (sp.stop.column - sp.start.column)
    (text ++ repeatChar ' ' gap ++ repeatChar '^' width, max col (sp.start.column - 1) + width)) ("", 0)
  repeatChar ' ' padding ++ text

/-- Whether a stretch lies on one line. -/
def Span.isOneLine (sp : Span) : Bool := sp.start.line = sp.stop.line

/-- Sorts stretches by where they start, then by where they end. -/
def sortSpans (spans : List Span) : List Span :=
  spans.mergeSort fun a b =>
    a.start.index < b.start.index || (a.start.index = b.start.index && a.stop.index ≤ b.stop.index)

/-- The report of a refused pattern. -/
def PatternError.report (pattern : String) (e : PatternError) : String :=
  let spans := e.span :: e.aux.toList
  let lines := textLines pattern
  let lineCount := lines.length + (if pattern.endsWith "\n" then 1 else 0)
  let width := if lineCount ≤ 1 then 0 else (Nat.repr lineCount).length
  let padding := if width = 0 then 4 else 2 + width
  let oneLine := sortSpans (spans.filter Span.isOneLine)
  let multiLine := sortSpans (spans.filter fun sp => !sp.isOneLine)
  let notated := String.join (lines.zipIdx.map fun (line, i) =>
    let number := Nat.repr (i + 1)
    let lead := if width = 0 then "    " else repeatChar ' ' (width - number.length) ++ number ++ ": "
    let marks := oneLine.filter fun sp => sp.start.line = i + 1
    lead ++ line ++ "\n" ++ (if marks.isEmpty then "" else caretLine padding marks ++ "\n"))
  let message := "error: " ++ e.kind.message
  if pattern.contains '\n' then
    let divider := repeatChar '~' 79
    let notes := multiLine.map fun sp =>
      "on line " ++ Nat.repr sp.start.line ++ " (column " ++ Nat.repr sp.start.column ++
        ") through line " ++ Nat.repr sp.stop.line ++ " (column " ++ Nat.repr (sp.stop.column - 1) ++ ")"
    "regex parse error:\n" ++ divider ++ "\n" ++ notated ++ divider ++ "\n" ++
      (if notes.isEmpty then "" else String.intercalate "\n" notes ++ "\n") ++ message
  else "regex parse error:\n" ++ notated ++ message

end Regex

end ChainWatch
