import FontCompiler.Regex.Class
import FontCompiler.Text.Letters

/-!
# Reading patterns

A pattern is a choice of sequences, whose parts may be repeated and grouped.
Letters for modes at the start of a group hold inside it, and a group that holds
nothing else switches modes up to the end of the group around it.  Of groups that
are not closed, the innermost one is to blame.
-/

namespace FontCompiler.Regex

/-! ## Repetitions -/

/-- Reads a number of repetitions.  What is wrong with the number is told later, if nothing worse
follows. -/
def readDecimal : Reader (Except Fault Nat) := do
  skipWhite
  let start ← here
  let digits ← readSpaced Char.isDigit (← get).chars.length
  let span := (← get).since start
  skipWhite
  match digits, Text.decimalValue? digits with
  | [], _ => return .error ⟨.repetitionNoDecimal, span, none⟩
  | _, some value =>
    return if value < UInt32.size then .ok value else .error ⟨.decimalTooLarge, span, none⟩
  | _, none => return .error ⟨.decimalTooLarge, span, none⟩

/-- Demands that the braces of a repetition do not end with the text. -/
def demandCount (start : Place) : Reader Unit := do
  let rest ← get
  if rest.chars.isEmpty then fail .repetitionUnclosed (rest.since start) else pure ()

/-- Reads the bounds of a repetition in braces. -/
def readCount : Reader (Nat × Option Nat) := do
  let start ← here
  advanceSpaced
  demandCount start
  let least ← readDecimal
  demandCount start
  let (least, most) ←
    if (← current?) = some ',' then do
      advanceSpaced
      demandCount start
      if (← current?) = some '}' then pure (← liftM least, none)
      else do
        let least ← (liftM least : Reader Nat)
        let most ← (liftM (← readDecimal) : Reader Nat)
        pure (least, some most)
    else do
      let exact ← (liftM least : Reader Nat)
      pure (exact, some exact)
  if (← current?) ≠ some '}' then fail .repetitionUnclosed ((← get).since start)
  else
    advanceSpaced
    if (← current?) = some '?' then advance
    match most with
    | some most =>
      if most < least then fail .repetitionOrder ((← get).since start)
      else return (least, some most)
    | none => return (least, none)

/-- Reads the sign of a repetition, and the question mark behind it. -/
def readSign : Reader Unit := do
  advance
  if (← current?) = some '?' then advance

/-- Replaces the latest of some patterns by its repetition. -/
def repeatLatest (items : List Pattern) (bounds : Reader (Nat × Option Nat)) :
    Reader (List Pattern) := do
  match items with
  | [] => fail .repetitionOfNothing (← get).point
  | item :: items =>
    if item.isRepeatable then
      let (least, most) ← bounds
      return .repetition least most item :: items
    else fail .repetitionOfNothing (← get).point

/-! ## Groups -/

/-- Whether a character may stand in the name of a group. -/
def isNameChar (isFirst : Bool) (char : Char) : Bool :=
  char = '_' || Text.isAlphabetic char ||
    !isFirst && (".[]".toList.contains char || Text.isNumeric char)

/-- Reads the characters of a name up to its closing bracket or the end. -/
def readNameChars : (fuel : Nat) → (isFirst : Bool) → Reader (List Char)
  | 0, _ => return []
  | fuel + 1, isFirst => do
    let rest ← get
    match rest.chars with
    | [] => return []
    | '>' :: _ => return []
    | char :: _ =>
      if isNameChar isFirst char then
        advance
        return char :: (← readNameChars fuel false)
      else fail .groupNameCharacter rest.charSpan

/-- Reads the name of a group, which must be new. -/
def readGroupName : Reader Unit := do
  let rest ← get
  let chars ← readNameChars rest.chars.length true
  let behind ← get
  if behind.chars.isEmpty then fail .groupNameUnclosed behind.point
  else if chars.isEmpty then fail .groupNameEmpty rest.point
  else
    let name := String.ofList chars
    let span := behind.since rest.place
    match behind.names.find? (·.1 = name) with
    | some (_, earlier) => throw ⟨.groupNameTwice, span, some earlier⟩
    | none => set { behind.next with names := (name, span) :: behind.names }

/-- The mode of a letter. -/
def Mode.ofChar? : Char → Option Mode
  | 'i' => some .caseless
  | 'm' => some .multiline
  | 's' => some .dotAll
  | 'U' => some .swapGreed
  | 'u' => some .unicode
  | 'R' => some .carriageReturn
  | 'x' => some .verbose
  | _ => none

/-- A letter for a mode, or else the sign that the modes behind it are switched off. -/
abbrev ModeItem := Option Mode × Span

/-- Reads letters for modes up to a colon or a closing bracket; those read are given, the latest
first. -/
def readModes : (fuel : Nat) → List ModeItem → Reader (List ModeItem)
  | 0, items => return items
  | fuel + 1, items => do
    let rest ← get
    match rest.chars with
    | [] => fail .modeCut rest.point
    | ':' :: _ => return items
    | ')' :: _ => return items
    | char :: _ =>
      let mode := Mode.ofChar? char
      if mode.isNone && char ≠ '-' then fail .modeUnknown rest.charSpan
      else
        let kind := if mode.isNone then FaultKind.modeSignTwice else .modeTwice
        match items.find? (·.1 = mode) with
        | some (_, earlier) => throw ⟨kind, rest.charSpan, some earlier⟩
        | none =>
          advance
          readModes fuel ((mode, rest.charSpan) :: items)

/-- The switches of letters in their order. -/
def Switches.ofItems (items : List ModeItem) : Switches :=
  let (on, off) := items.span (·.1.isSome)
  ⟨on.filterMap Prod.fst, off.filterMap Prod.fst⟩

/-- What the start of a group turns out to be. -/
inductive Opening
  | directive (switches : Switches)
  | group (switches : Switches)

/-- Reads modes behind the question mark of a group; `inner` is where the question mark stands. -/
def readSwitches (opened inner : Span) : Reader Opening := do
  let rest ← get
  if rest.chars.isEmpty then fail .groupUnclosed opened
  else
    let items ← readModes (rest.chars.length + 1) []
    match items with
    | (none, span) :: _ => fail .modeSignLast span
    | _ =>
      let switches := Switches.ofItems items.reverse
      let isDirective := (← current?) = some ')'
      advance
      if !isDirective then return .group switches
      else if items.isEmpty then fail .repetitionOfNothing inner
      else return .directive switches

/-- Reads the start of a group, from its bracket on. -/
def readOpening (opened : Span) : Reader Opening := do
  advance
  skipSpace
  let inner := (← get).point
  if ← acceptOne ["?=".toList, "?!".toList, "?<=".toList, "?<!".toList] then
    fail .lookAround ((← get).since opened.start)
  else if ← acceptOne ["?P<".toList, "?<".toList] then
    readGroupName
    return .group .nothing
  else if ← accept ['?'] then readSwitches opened inner
  else return .group .nothing

/-! ## Whole patterns -/

/-- Puts the verbose mode where it is asked to be. -/
def setVerbose (verbose : Bool) : Reader Unit :=
  modify fun rest => { rest with verbose }

/-- Reads the body of a group, or of the whole text if no group has been opened.  The choices read
so far and the parts of the current one are given, the latest first. -/
def readBody : (fuel : Nat) → (opened : Option Span) → (choices items : List Pattern) →
    Reader Pattern
  | 0, _, choices, items => return Pattern.ofChoices (Pattern.ofLatest items) choices
  | fuel + 1, opened, choices, items => do
    skipSpace
    let rest ← get
    match rest.chars with
    | [] =>
      match opened with
      | some span => fail .groupUnclosed span
      | none => return Pattern.ofChoices (Pattern.ofLatest items) choices
    | '(' :: _ =>
      match ← readOpening rest.charSpan with
      | .directive switches =>
        setVerbose (switches.apply .verbose rest.verbose)
        readBody fuel opened choices (.directive switches :: items)
      | .group switches =>
        setVerbose (switches.apply .verbose rest.verbose)
        let body ← readBody fuel (some rest.charSpan) [] []
        setVerbose rest.verbose
        readBody fuel opened choices (.group switches body :: items)
    | ')' :: _ =>
      match opened with
      | none => fail .groupUnopened rest.charSpan
      | some _ =>
        advance
        return Pattern.ofChoices (Pattern.ofLatest items) choices
    | '|' :: _ =>
      advance
      readBody fuel opened (Pattern.ofLatest items :: choices) []
    | '[' :: _ =>
      let (inner, members) ← readClassStart
      let set ← readClass fuel inner none members
      readBody fuel opened choices (.set set :: items)
    | '?' :: _ =>
      readBody fuel opened choices (← repeatLatest items (do readSign; return (0, some 1)))
    | '*' :: _ =>
      readBody fuel opened choices (← repeatLatest items (do readSign; return (0, none)))
    | '+' :: _ =>
      readBody fuel opened choices (← repeatLatest items (do readSign; return (1, none)))
    | '{' :: _ => readBody fuel opened choices (← repeatLatest items readCount)
    | '\\' :: _ => readBody fuel opened choices ((← readEscape).pattern :: items)
    | '.' :: _ =>
      advance
      readBody fuel opened choices (.dot rest.charSpan :: items)
    | '^' :: _ =>
      advance
      readBody fuel opened choices (.anchor .caret :: items)
    | '$' :: _ =>
      advance
      readBody fuel opened choices (.anchor .dollar :: items)
    | char :: _ =>
      advance
      readBody fuel opened choices (.literal ⟨char, rest.charSpan, false⟩ :: items)

/-- The pattern that a text is. -/
def Pattern.ofText (text : String) : Except Fault Pattern :=
  (readBody (text.length + 1) none [] []).run' ⟨text.toList, .origin, false, []⟩

end FontCompiler.Regex
