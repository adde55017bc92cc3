import FontCompiler.Regex.CharSet

/-!
# Matching

The meaning of a pattern, with the modes resolved, and the question whether a
text has a match anywhere.  A set of places in a text is a list of marks, one
for every place from the start to the end; an expression sends the places where
a match may begin to those where it may end.  That way no order among matches
has to be kept, and the work is bounded by the sizes of text and expression.
-/

namespace FontCompiler.Regex

/-- What is demanded of the characters around a place. -/
inductive Condition
  | textStart
  | textEnd
  | lineStart
  | lineEnd
  /-- The start of a line that a carriage return, a line feed or both may end. -/
  | anyLineStart
  /-- The end of a line that a carriage return, a line feed or both may end. -/
  | anyLineEnd
  | boundary (word : CharSet)
  | notBoundary (word : CharSet)
  | wordStart (word : CharSet)
  | wordEnd (word : CharSet)
  | wordStartHalf (word : CharSet)
  | wordEndHalf (word : CharSet)
  deriving DecidableEq, Repr

namespace Condition

/-- Whether a condition holds between two characters; at an end of the text one is missing. -/
def holds (condition : Condition) (behind ahead : Option Char) : Bool :=
  let isWord (word : CharSet) (char : Option Char) : Bool := char.any word.contains
  match condition with
  | .textStart => behind.isNone
  | .textEnd => ahead.isNone
  | .lineStart => behind.isNone || behind = some '\n'
  | .lineEnd => ahead.isNone || ahead = some '\n'
  | .anyLineStart =>
    behind.isNone || behind = some '\n' || behind = some '\r' && ahead ≠ some '\n'
  | .anyLineEnd =>
    ahead.isNone || ahead = some '\r' || ahead = some '\n' && behind ≠ some '\r'
  | .boundary word => isWord word behind != isWord word ahead
  | .notBoundary word => isWord word behind == isWord word ahead
  | .wordStart word => !isWord word behind && isWord word ahead
  | .wordEnd word => isWord word behind && !isWord word ahead
  | .wordStartHalf word => !isWord word behind
  | .wordEndHalf word => !isWord word ahead

end Condition

/-- A regular expression. -/
inductive Expression
  | empty
  | set (set : CharSet)
  | condition (condition : Condition)
  | repetition (least : Nat) (most : Option Nat) (body : Expression)
  | sequence (first second : Expression)
  | choice (first second : Expression)
  deriving DecidableEq, Repr

/-- A set of places in a text, from its start to its end. -/
abbrev Marks := List Bool

namespace Marks

/-- The places of either set. -/
def join (left right : Marks) : Marks :=
  List.zipWith (· || ·) left right

/-- The places of one set that are not in another. -/
def without (left right : Marks) : Marks :=
  List.zipWith (fun left right => left && !right) left right

/-- Whether a set holds any place. -/
def isSome (marks : Marks) : Bool :=
  marks.any id

/-- Takes a number of steps. -/
def iterate (step : Marks → Marks) : (count : Nat) → Marks → Marks
  | 0, marks => marks
  | count + 1, marks => if marks.isSome then iterate step count (step marks) else marks

/-- The places that at most a number of steps lead to; those that the latest step has led to for
the first time are given. -/
def within (step : Marks → Marks) : (count : Nat) → (reached latest : Marks) → Marks
  | 0, reached, _ => reached
  | count + 1, reached, latest =>
    if latest.isSome then
      let ends := step latest
      within step count (join reached ends) (without ends reached)
    else reached

end Marks

namespace Expression

/-- The places where matches end that begin at given places.  Of the steps of a repetition, no
more than there are characters have to read any, and a step that reads none can be left out or
done again; so bounds above the number of places say no more than that number. -/
def reach (text : List Char) : Expression → Marks → Marks
  | .empty, marks => marks
  | .set members, marks =>
    false :: List.zipWith (fun char mark => mark && members.contains char) text marks
  | .condition demand, marks =>
    List.zipWith (fun (behind, ahead) mark => mark && demand.holds behind ahead)
      ((none :: text.map some).zip (text.map some ++ [none])) marks
  | .repetition least most body, marks =>
    let places := text.length + 1
    let start := Marks.iterate (body.reach text) (min least places) marks
    let further :=
      match most with
      | none => places
      | some most => min (most - least) places
    Marks.within (body.reach text) further start start
  | .sequence first second, marks => second.reach text (first.reach text marks)
  | .choice first second, marks =>
    Marks.join (first.reach text marks) (second.reach text marks)

/-- Whether an expression matches somewhere in a text. -/
def matchesIn (expression : Expression) (text : String) : Bool :=
  let chars := text.toList
  (expression.reach chars (List.replicate (chars.length + 1) true)).isSome

end Expression

end FontCompiler.Regex
