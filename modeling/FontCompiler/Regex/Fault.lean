import FontCompiler.Regex.Pattern

/-!
# Faults of patterns

What is wrong with a text that is no pattern, and the report about it: the text
itself with its faulty part underlined, and what is the matter with it.  Several
lines of text are numbered.
-/

namespace FontCompiler.Regex

/-- What is wrong with a pattern. -/
inductive FaultKind
  | classEscape
  | classRangeOrder
  | classRangeBound
  | classUnclosed
  | decimalTooLarge
  | hexEmpty
  | hexNoCharacter
  | hexDigit
  | escapeCut
  | escapeUnknown
  | modeSignLast
  | modeTwice
  | modeSignTwice
  | modeCut
  | modeUnknown
  | groupNameTwice
  | groupNameEmpty
  | groupNameCharacter
  | groupNameUnclosed
  | groupUnclosed
  | groupUnopened
  | repetitionOrder
  | repetitionNoDecimal
  | repetitionUnclosed
  | repetitionOfNothing
  | wordAnchorUnclosed
  | wordAnchorUnknown
  | wordAnchorCut
  | propertySyntax
  | backreference
  | lookAround
  | unicodeNotAllowed
  | notUtf8
  | propertyUnknown
  | propertyValueUnknown
  deriving DecidableEq, Repr

namespace FaultKind

/-- The wording of a fault. -/
def message : FaultKind → String
  | .classEscape => "invalid escape sequence found in character class"
  | .classRangeOrder => "invalid character class range, the start must be <= the end"
  | .classRangeBound => "invalid range boundary, must be a literal"
  | .classUnclosed => "unclosed character class"
  | .decimalTooLarge => "decimal literal invalid"
  | .hexEmpty => "hexadecimal literal empty"
  | .hexNoCharacter => "hexadecimal literal is not a Unicode scalar value"
  | .hexDigit => "invalid hexadecimal digit"
  | .escapeCut => "incomplete escape sequence, reached end of pattern prematurely"
  | .escapeUnknown => "unrecognized escape sequence"
  | .modeSignLast => "dangling flag negation operator"
  | .modeTwice => "duplicate flag"
  | .modeSignTwice => "flag negation operator repeated"
  | .modeCut => "expected flag but got end of regex"
  | .modeUnknown => "unrecognized flag"
  | .groupNameTwice => "duplicate capture group name"
  | .groupNameEmpty => "empty capture group name"
  | .groupNameCharacter => "invalid capture group character"
  | .groupNameUnclosed => "unclosed capture group name"
  | .groupUnclosed => "unclosed group"
  | .groupUnopened => "unopened group"
  | .repetitionOrder => "invalid repetition count range, the start must be <= the end"
  | .repetitionNoDecimal => "repetition quantifier expects a valid decimal"
  | .repetitionUnclosed => "unclosed counted repetition"
  | .repetitionOfNothing => "repetition operator missing expression"
  | .wordAnchorUnclosed =>
    "special word boundary assertion is either unclosed or contains an invalid character"
  | .wordAnchorUnknown =>
    "unrecognized special word boundary assertion, valid choices are: " ++
      "start, end, start-half or end-half"
  | .wordAnchorCut =>
    "found either the beginning of a special word boundary or a bounded repetition " ++
      "on a \\b with an opening brace, but no closing brace"
  | .propertySyntax => "invalid Unicode character class"
  | .backreference => "backreferences are not supported"
  | .lookAround => "look-around, including look-ahead and look-behind, is not supported"
  | .unicodeNotAllowed => "Unicode not allowed here"
  | .notUtf8 => "pattern can match invalid UTF-8"
  | .propertyUnknown => "Unicode property not found"
  | .propertyValueUnknown => "Unicode property value not found"

end FaultKind

/-- A fault with the part of the pattern it is about, and the part that it repeats. -/
structure Fault where
  kind : FaultKind
  span : Span
  earlier : Option Span
  deriving DecidableEq, Repr

namespace Span

/-- Whether a span lies in a single line. -/
def isInLine (span : Span) : Bool :=
  span.start.line = span.stop.line

/-- Whether a span comes before another or is the same. -/
def precedes (left right : Span) : Bool :=
  if left.start = right.start then left.stop.reaches right.stop
  else left.start.reaches right.start

end Span

namespace Fault

/-- The marks below a line, from a column on, for spans in ascending order. -/
def marks (column : Nat) : List Span → List Char
  | [] => []
  | span :: spans =>
    let width := max 1 (span.stop.column - span.start.column)
    List.replicate (span.start.column - column) ' ' ++ List.replicate width '^' ++
      marks (max column span.start.column + width) spans

/-- The spans of a fault, in ascending order. -/
def spans (fault : Fault) : List Span :=
  match fault.earlier with
  | none => [fault.span]
  | some earlier =>
    if earlier.precedes fault.span then [earlier, fault.span] else [fault.span, earlier]

/-- A line without the carriage return at its end. -/
def withoutReturn (line : String) : String :=
  if line.endsWith "\r" then (line.dropEnd 1).toString else line

/-- The lines of a text; what follows the last line break is a line unless it is empty. -/
def lines (pattern : String) : List String :=
  match (pattern.splitOn "\n").reverse with
  | [] => []
  | last :: others =>
    let whole := others.reverse.map withoutReturn
    if last = "" then whole else whole ++ [last]

/-- The lines of a pattern from a given one on, each with a label and the marks below. -/
def notes (fault : Fault) (label : Nat → String) : (line : Nat) → List String → String
  | _, [] => ""
  | line, text :: texts =>
    let front := label line
    let spans := fault.spans.filter fun span => span.isInLine && span.start.line = line
    let below :=
      if spans.isEmpty then ""
      else String.ofList (List.replicate front.length ' ' ++ marks 1 spans) ++ "\n"
    front ++ text ++ "\n" ++ below ++ notes fault label (line + 1) texts

/-- The number of a line, as wide as the largest number. -/
def lineLabel (width line : Nat) : String :=
  let digits := toString line
  String.ofList (List.replicate (width - digits.length) ' ') ++ digits ++ ": "

/-- What is said about a span of several lines. -/
def longSpan (span : Span) : String :=
  "on line " ++ toString span.start.line ++ " (column " ++ toString span.start.column ++
    ") through line " ++ toString span.stop.line ++ " (column " ++
    toString (span.stop.column - 1) ++ ")\n"

/-- The report of a fault about a pattern. -/
def report (fault : Fault) (pattern : String) : String :=
  let texts := lines pattern
  let count := texts.length + if pattern.endsWith "\n" then 1 else 0
  let body :=
    if pattern.contains '\n' then
      let divider := String.ofList (List.replicate 79 '~') ++ "\n"
      let label : Nat → String :=
        if count ≤ 1 then fun _ => "    " else lineLabel (toString count).length
      divider ++ notes fault label 1 texts ++ divider ++
        String.join ((fault.spans.filter (!·.isInLine)).map longSpan)
    else notes fault (fun _ => "    ") 1 texts
  "regex parse error:\n" ++ body ++ "error: " ++ fault.kind.message

end Fault

end FontCompiler.Regex
