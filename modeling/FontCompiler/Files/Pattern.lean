import FontCompiler.Files.System
import FontCompiler.Numeric.Decimal

/-!
# Path patterns

A pattern is a path whose segments may hold wildcards: a question mark stands
for any character, a star for any characters, and brackets for one character of
a set or, behind an exclamation mark, for one outside of it.  A segment of two
stars stands for any number of directories.

A pattern is expanded from the left.  Directories are searched only where a
segment has wildcards, and their names are taken in ascending order.
-/

namespace FontCompiler.Files

/-- What a part of a segment stands for. -/
inductive Wildcard
  | char (char : Char)
  | anyChar
  | anySequence
  | anyDepth
  | within (intervals : List (Char × Char))
  | outside (intervals : List (Char × Char))
  deriving DecidableEq, Repr

/-- Why a text is no pattern. -/
inductive PatternMistake
  | unclosedSet
  | tooManyStars
  | starsBesideText
  deriving DecidableEq, Repr

/-- A mistake in a pattern and where it stands. -/
structure PatternFault where
  position : Nat
  mistake : PatternMistake
  deriving DecidableEq, Repr

/-- The wording of a fault. -/
def PatternFault.message (fault : PatternFault) : String :=
  "Pattern syntax error near position " ++ Numeric.decimalDigits fault.position ++ ": " ++
    match fault.mistake with
    | .unclosedSet => "invalid range pattern"
    | .tooManyStars => "wildcards are either regular `*` or recursive `**`"
    | .starsBesideText => "recursive wildcards must form a single path component"

/-- The intervals of a set of characters. -/
def intervals : List Char → List (Char × Char)
  | first :: '-' :: last :: chars => (first, last) :: intervals chars
  | char :: chars => (char, char) :: intervals chars
  | [] => []

/-- The members of a set whose first member is the first character, and what follows its
bracket. -/
def splitSet : List Char → Option (List Char × List Char)
  | [] => none
  | first :: chars =>
    match chars.span (· != ']') with
    | (members, _ :: rest) => some (first :: members, rest)
    | (_, []) => none

/-- The wildcards of a text.  The character in front and the position are given. -/
def readWildcards : (fuel : Nat) → (before : Option Char) → (position : Nat) → List Char →
    Except PatternFault (List Wildcard)
  | 0, _, _, _ => .ok []
  | _, _, _, [] => .ok []
  | fuel + 1, before, position, char :: rest =>
    let proceed (wildcard : Wildcard) (last : Char) (width : Nat) (rest : List Char) :
        Except PatternFault (List Wildcard) := do
      return wildcard :: (← readWildcards fuel (some last) (position + width) rest)
    match char with
    | '?' => proceed .anyChar '?' 1 rest
    | '*' =>
      match rest with
      | '*' :: '*' :: _ => .error ⟨position + 2, .tooManyStars⟩
      | '*' :: rest =>
        if before.any (· != '/') then .error ⟨position - 1, .starsBesideText⟩
        else
          match rest with
          | [] => .ok [.anyDepth]
          | '/' :: rest => proceed .anyDepth '/' 3 rest
          | _ => .error ⟨position + 2, .starsBesideText⟩
      | rest => proceed .anySequence '*' 1 rest
    | '[' =>
      let (excluded, members) :=
        match rest with
        | '!' :: members => (true, members)
        | members => (false, members)
      match splitSet members with
      | none => .error ⟨position, .unclosedSet⟩
      | some (set, behind) =>
        let wildcard : Wildcard :=
          if excluded then .outside (intervals set) else .within (intervals set)
        proceed wildcard ']' (set.length + if excluded then 3 else 2) behind
    | char => proceed (.char char) char 1 rest

/-- The wildcards of a text. -/
def wildcards (text : String) : Except PatternFault (List Wildcard) :=
  readWildcards (text.length + 1) none 0 text.toList

namespace Wildcard

/-- Whether some of the texts that remain when characters are dropped from the start
satisfies a condition. -/
def someRest (holds : List Char → Bool) : List Char → Bool
  | [] => holds []
  | letter :: chars => holds (letter :: chars) || someRest holds chars

/-- Whether a character lies in one of the intervals. -/
def inIntervals (intervals : List (Char × Char)) (letter : Char) : Bool :=
  intervals.any fun (first, last) => first ≤ letter && letter ≤ last

/-- Whether wildcards stand for a name. -/
def allMatch : List Wildcard → List Char → Bool
  | [], chars => chars.isEmpty
  | .anySequence :: others, chars => someRest (allMatch others) chars
  | .anyDepth :: others, chars => someRest (allMatch others) chars
  | _ :: _, [] => false
  | .char expected :: others, letter :: chars => letter == expected && allMatch others chars
  | .anyChar :: others, _ :: chars => allMatch others chars
  | .within intervals :: others, letter :: chars =>
    inIntervals intervals letter && allMatch others chars
  | .outside intervals :: others, letter :: chars =>
    !inIntervals intervals letter && allMatch others chars

/-- The only name that wildcards stand for, if there are none among them. -/
def literal? : List Wildcard → Option (List Char)
  | [] => some []
  | .char letter :: others => do return letter :: (← literal? others)
  | _ :: _ => none

end Wildcard

/-- A segment of a pattern. -/
abbrev Segment := List Wildcard

/-- Whether a segment stands for any number of directories. -/
def Segment.isAnyDepth (segment : Segment) : Bool :=
  segment.contains .anyDepth

/-- A pattern: the directory where it starts, its segments, and whether only directories
are meant. -/
structure Pattern where
  start : String
  segments : List Segment
  directories : Bool

namespace Pattern

/-- Whether a text is to be read as a pattern. -/
def looksLike (text : String) : Bool :=
  text.toList.any fun char => char = '*' || char = '?' || char = '[' || char = '{'

/-- The pattern that a text denotes. -/
def ofText (text : String) : Except PatternFault Pattern := do
  let _ ← wildcards text
  let relative := if isAbsolute text then String.ofList (text.toList.drop 1) else text
  let pieces := Files.segments relative
  let directories := pieces.getLast? == some ""
  let pieces := if directories then pieces.dropLast else pieces
  return ⟨if isAbsolute text then "/" else ".", ← pieces.mapM wildcards, directories⟩

/-- The segments from the last of the leading ones on that stand for any directories. -/
def collapse : List Segment → List Segment
  | segment :: next :: segments =>
    if Segment.isAnyDepth next then collapse (next :: segments) else segment :: next :: segments
  | segments => segments

/-- Whether a path is that of the working directory. -/
def isCurrent (path : String) : Bool :=
  !isAbsolute path && (dropIdle (Files.segments path).reverse) == ["."]

/-- A path in a directory; the working directory is not named. -/
def inside (directory name : String) : String :=
  if isCurrent directory then name else join directory name

/-- What a search finds: paths in order, or the directory that cannot be searched. -/
abbrev Search (m : Type → Type) := ExceptT (String × Failure) m

section

variable {m : Type → Type} [Monad m] (system : System m) (directories : Bool)

/-- The results of several searches, one after the other. -/
def searchAll {α : Type} (search : α → Search m (List String)) :
    List α → Search m (List String)
  | [] => return []
  | item :: items => do
    let found ← search item
    return found ++ (← searchAll search items)

/-- The names of a directory in ascending order. -/
def namesOf (directory : String) : Search m (List String) := do
  match ← system.listDirectory directory with
  | .error failure => throw (directory, failure)
  | .ok names => return names.mergeSort fun left right => !decide (right < left)

mutual

/-- The paths below a given one that segments lead to. -/
def searchBelow : (fuel : Nat) → List Segment → String → Search m (List String)
  | 0, _, _ => return []
  | _, [], _ => return []
  | fuel + 1, segment :: segments, path => do
    let isDirectory := (← system.status path) == some true
    let reached (path : String) : Search m (List String) := do
      if !segments.isEmpty then searchBelow fuel segments path
      else if directories && (← system.status path) != some true then return []
      else return [path]
    match Wildcard.literal? segment with
    | some name =>
      let name := String.ofList name
      let next := inside path name
      let isThere ←
        if name = "." ∨ name = ".." then pure isDirectory
        else pure (← system.status next).isSome
      if isThere then reached next else return []
    | none =>
      if !isDirectory then return []
      let special :=
        if segment.head? = some (.char '.') then
          ["..", "."].filter fun name => Wildcard.allMatch segment name.toList
        else []
      let dotted ← searchAll (fun name => reached (join path name)) special
      let names ← namesOf system path
      let found ← searchAll (searchAt fuel (segment :: segments) path) names
      return dotted ++ found

/-- The paths that segments lead to, the first of which is tried on a name in a directory. -/
def searchAt : (fuel : Nat) → List Segment → String → String → Search m (List String)
  | 0, _, _, _ => return []
  | fuel + 1, segments, directory, name => do
    let path := inside directory name
    let isDirectory := (← system.status path) == some true
    let tried (segments : List Segment) : Search m (List String) :=
      match segments with
      | [] => return []
      | segment :: others => do
        if !Wildcard.allMatch segment name.toList then return []
        else if !others.isEmpty then searchBelow fuel others path
        else if directories && !isDirectory then return []
        else return [path]
    match segments with
    | [] => return []
    | segment :: _ =>
      if !Segment.isAnyDepth segment then tried segments
      else
        let segments := collapse segments
        let here ←
          if segments.length ≤ 1 then pure (if isDirectory then [path] else [])
          else tried (segments.drop 1)
        let below ← if isDirectory then searchBelow fuel segments path else pure []
        return here ++ below

end

end

/-- More steps than a search in directories can take from its start downwards. -/
def searchDepth : Nat := 10000

/-- The paths that a pattern stands for. -/
def expand {m : Type → Type} [Monad m] (system : System m) (pattern : Pattern) :
    m (Except (String × Failure) (List String)) :=
  (searchBelow system pattern.directories searchDepth pattern.segments pattern.start).run

end Pattern

end FontCompiler.Files
