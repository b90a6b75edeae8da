/-!
What can be wrong with the source of a pattern, where in the source, and the report that shows both:
the source with the faulty stretch marked under it, then the reason.
-/

namespace GeckScript.Regex

structure Stretch where
  start : Nat
  stop : Nat
  deriving Repr, DecidableEq

inductive Reason where
  | classEscape
  | classRangeOrder
  | classRangeBound
  | classUnclosed
  | decimalTooLarge
  | hexEmpty
  | hexNoScalar
  | hexDigit
  | escapeEnd
  | escapeUnknown
  | flagDanglingNegation
  | flagTwice
  | flagNegationTwice
  | flagEnd
  | flagUnknown
  | groupNameTwice
  | groupNameEmpty
  | groupNameCharacter
  | groupNameEnd
  | groupUnclosed
  | groupUnopened
  | repetitionOrder
  | repetitionDecimal
  | repetitionUnclosed
  | repetitionOperand
  | wordBoundaryUnclosed
  | wordBoundaryUnknown
  | wordBoundaryEnd
  | backreference
  | lookAround
  deriving Repr, DecidableEq

def Reason.message : Reason → String
  | classEscape => "invalid escape sequence found in character class"
  | classRangeOrder => "invalid character class range, the start must be <= the end"
  | classRangeBound => "invalid range boundary, must be a literal"
  | classUnclosed => "unclosed character class"
  | decimalTooLarge => "decimal literal invalid"
  | hexEmpty => "hexadecimal literal empty"
  | hexNoScalar => "hexadecimal literal is not a Unicode scalar value"
  | hexDigit => "invalid hexadecimal digit"
  | escapeEnd => "incomplete escape sequence, reached end of pattern prematurely"
  | escapeUnknown => "unrecognized escape sequence"
  | flagDanglingNegation => "dangling flag negation operator"
  | flagTwice => "duplicate flag"
  | flagNegationTwice => "flag negation operator repeated"
  | flagEnd => "expected flag but got end of regex"
  | flagUnknown => "unrecognized flag"
  | groupNameTwice => "duplicate capture group name"
  | groupNameEmpty => "empty capture group name"
  | groupNameCharacter => "invalid capture group character"
  | groupNameEnd => "unclosed capture group name"
  | groupUnclosed => "unclosed group"
  | groupUnopened => "unopened group"
  | repetitionOrder => "invalid repetition count range, the start must be <= the end"
  | repetitionDecimal => "repetition quantifier expects a valid decimal"
  | repetitionUnclosed => "unclosed counted repetition"
  | repetitionOperand => "repetition operator missing expression"
  | wordBoundaryUnclosed =>
    "special word boundary assertion is either unclosed or contains an invalid character"
  | wordBoundaryUnknown =>
    "unrecognized special word boundary assertion, " ++
      "valid choices are: start, end, start-half or end-half"
  | wordBoundaryEnd =>
    "found either the beginning of a special word boundary or a bounded repetition on a \\b " ++
      "with an opening brace, but no closing brace"
  | backreference => "backreferences are not supported"
  | lookAround => "look-around, including look-ahead and look-behind, is not supported"

/-- A fault marks one stretch, and a second one where it repeats something that came before. -/
structure Fault where
  place : Stretch
  reason : Reason
  first : Option Stretch
  deriving Repr, DecidableEq

namespace Fault

def between (start stop : Nat) (reason : Reason) : Fault :=
  ⟨⟨start, stop⟩, reason, none⟩

def places (f : Fault) : List Stretch :=
  match f.first with
  | none => [f.place]
  | some earlier => if earlier.start ≤ f.place.start then [earlier, f.place] else [f.place, earlier]

end Fault

/-- The lines of a source without the line feeds, or CRLF pairs, that end them. A line feed at the
very end opens no further line. -/
def sourceLines (chars : List Char) : List (List Char) :=
  match chars.splitOn '\n' |>.reverse with
  | last :: ended =>
    let ended := ended.map fun line => if line.getLast? == some '\r' then line.dropLast else line
    if last.isEmpty then ended.reverse else (last :: ended).reverse
  | [] => []

/-- The line of an offset and its column in that line, both counted from 0. -/
def lineColumn : List Char → Nat → Nat × Nat
  | _, 0 => (0, 0)
  | [], n => (0, n)
  | c :: rest, n + 1 =>
    let (line, column) := lineColumn rest n
    if c = '\n' then (line + 1, column)
    else if line = 0 then (0, column + 1) else (line, column)

structure Marked where
  firstLine : Nat
  firstColumn : Nat
  lastLine : Nat
  lastColumn : Nat

namespace Marked

def ofStretch (source : List Char) (s : Stretch) : Marked :=
  let (firstLine, firstColumn) := lineColumn source s.start
  let (lastLine, lastColumn) := lineColumn source s.stop
  ⟨firstLine, firstColumn, lastLine, lastColumn⟩

def isOneLine (m : Marked) : Bool :=
  m.firstLine == m.lastLine

def carets : Nat → List Marked → String
  | _, [] => ""
  | column, m :: rest =>
    let width := max 1 (m.lastColumn - m.firstColumn)
    String.ofList (List.replicate (m.firstColumn - column) ' ' ++ List.replicate width '^') ++
      carets (max column m.firstColumn + width) rest

def range (m : Marked) : String :=
  s!"on line {m.firstLine + 1} (column {m.firstColumn + 1}) " ++
    s!"through line {m.lastLine + 1} (column {m.lastColumn})"

end Marked

def padLeft (width : Nat) (text : String) : String :=
  String.ofList (List.replicate (width - text.length) ' ') ++ text

/-- The report on a fault. A source of several lines is shown with line numbers between rules. -/
def Fault.report (source : String) (f : Fault) : String :=
  let chars := source.toList
  let marks := f.places.map (Marked.ofStretch chars)
  let lines := sourceLines chars
  let count := lines.length + if chars.getLast? == some '\n' then 1 else 0
  let width := if count ≤ 1 then 0 else (toString count).length
  let margin := if width = 0 then 4 else width + 2
  let shown := lines.zipIdx.map fun (line, i) =>
    let label := if width = 0 then "    " else padLeft width (toString (i + 1)) ++ ": "
    let here := marks.filter fun m => m.isOneLine && m.firstLine == i
    let notes :=
      if here.isEmpty then "" else padLeft margin "" ++ Marked.carets 0 here ++ "\n"
    label ++ String.ofList line ++ "\n" ++ notes
  let reason := "error: " ++ f.reason.message
  if chars.contains '\n' then
    let divider := String.ofList (List.replicate 79 '~') ++ "\n"
    let ranges := (marks.filter (! ·.isOneLine)).map Marked.range
    let notes := if ranges.isEmpty then "" else "\n".intercalate ranges ++ "\n"
    "regex parse error:\n" ++ divider ++ String.join shown ++ divider ++ notes ++ reason
  else "regex parse error:\n" ++ String.join shown ++ reason

end GeckScript.Regex
