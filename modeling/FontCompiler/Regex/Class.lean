import FontCompiler.Regex.Escape

/-!
# Reading classes

A class in brackets holds characters, ranges, escapes and further classes, and
signs that combine all that stands in front with all that follows.  Of classes
that are not closed, the innermost one is to blame.
-/

namespace FontCompiler.Regex

/-- The class of a name between colons. -/
def NamedClass.ofName? : String → Option NamedClass
  | "alnum" => some .alnum
  | "alpha" => some .alpha
  | "ascii" => some .ascii
  | "blank" => some .blank
  | "cntrl" => some .cntrl
  | "digit" => some .digit
  | "graph" => some .graph
  | "lower" => some .lower
  | "print" => some .print
  | "punct" => some .punct
  | "space" => some .space
  | "upper" => some .upper
  | "word" => some .word
  | "xdigit" => some .xdigit
  | _ => none

/-- Reads a class with a name between colons; any other bracket is left alone. -/
def readNamedClass? : Reader (Option ClassPattern) := do
  let rest ← get
  match rest.chars with
  | '[' :: ':' :: chars =>
    let (negated, chars) :=
      match chars with
      | '^' :: chars => (true, chars)
      | chars => (false, chars)
    let (name, behind) := chars.span (· ≠ ':')
    match NamedClass.ofName? (String.ofList name), behind with
    | some kind, ':' :: ']' :: _ =>
      set (rest.skip (name.length + if negated then 5 else 4))
      return some (.named kind negated ((← get).since rest.place))
    | _, _ => return none
  | _ => return none

/-- Reads a character or an escape inside a class. -/
def readMember : Reader Primitive := do
  let rest ← get
  match rest.chars with
  | '\\' :: _ => readEscape
  | char :: _ =>
    advance
    return .literal ⟨char, rest.charSpan, false⟩
  | [] => fail .classUnclosed rest.point

/-- A class that has been opened: its bracket with what belongs to it. -/
structure OpenClass where
  span : Span
  negated : Bool

/-- Demands that a class does not end with the text. -/
def demandClass (opened : Span) : Reader Unit := do
  if (← get).chars.isEmpty then fail .classUnclosed opened else pure ()

/-- Reads the hyphens at the start of a class. -/
def readHyphens (start : Place) : (fuel : Nat) → ClassPattern → Reader ClassPattern
  | 0, union => return union
  | fuel + 1, union => do
    let rest ← get
    match rest.chars with
    | '-' :: _ =>
      advanceSpaced
      demandClass ⟨start, start⟩
      readHyphens start fuel (.union union (.literal ⟨'-', rest.charSpan, false⟩))
    | _ => return union

/-- Reads the start of a class: its bracket, the sign of its negation, and the hyphens or the
closing bracket that stand for themselves in front of everything else. -/
def readClassStart : Reader (OpenClass × ClassPattern) := do
  let start ← here
  advanceSpaced
  demandClass ((← get).since start)
  let negated := (← current?) = some '^'
  if negated then
    advanceSpaced
    demandClass ((← get).since start)
  let union ← readHyphens start (← get).chars.length .nothing
  let rest ← get
  if union = .nothing && rest.chars.head? = some ']' then
    advanceSpaced
    demandClass ((← get).since start)
    return (⟨(← get).since start, negated⟩, .literal ⟨']', rest.charSpan, false⟩)
  else return (⟨(← get).since start, negated⟩, union)

/-- Reads a member of a class or a range of characters. -/
def readRange (opened : Span) : Reader ClassPattern := do
  let start ← here
  let first ← readMember
  skipSpace
  demandClass opened
  let rest ← get
  if rest.chars.head? ≠ some '-' || rest.second? = some ']' || rest.second? = some '-' then
    first.member
  else
    advanceSpaced
    demandClass opened
    let last ← readMember
    let first ← first.bound
    let last ← last.bound
    if last.char < first.char then fail .classRangeOrder ⟨start, last.span.stop⟩
    else return .range first last

/-- A class with the combination that waits for its right side. -/
def combine (pending : Option (Combination × ClassPattern)) (union : ClassPattern) :
    ClassPattern :=
  match pending with
  | none => union
  | some (how, left) => .combined how left union

/-- The sign of a combination at the start of a text. -/
def combinationAt? : List Char → Option Combination
  | '&' :: '&' :: _ => some .intersection
  | '-' :: '-' :: _ => some .difference
  | '~' :: '~' :: _ => some .symmetricDifference
  | _ => none

/-- Reads a class up to its closing bracket, with the members of the current side given. -/
def readClass : (fuel : Nat) → OpenClass → (pending : Option (Combination × ClassPattern)) →
    (union : ClassPattern) → Reader ClassPattern
  | 0, opened, _, _ => fail .classUnclosed opened.span
  | fuel + 1, opened, pending, union => do
    skipSpace
    demandClass opened.span
    let rest ← get
    match combinationAt? rest.chars, rest.chars with
    | some how, _ =>
      set (rest.skip 2)
      readClass fuel opened (some (how, combine pending union)) .nothing
    | none, '[' :: _ =>
      let inner ←
        match ← readNamedClass? with
        | some named => pure named
        | none => do
          let (inner, members) ← readClassStart
          readClass fuel inner none members
      readClass fuel opened pending (.union union inner)
    | none, ']' :: _ =>
      advance
      return .bracketed (combine pending union) opened.negated ((← get).since opened.span.start)
    | none, _ => readClass fuel opened pending (.union union (← readRange opened.span))

end FontCompiler.Regex
