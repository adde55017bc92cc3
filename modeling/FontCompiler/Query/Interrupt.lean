import FontCompiler.Query.Outputs
import FontCompiler.Query.Reading

/-!
# Interrupted outputs

In the place of an output a filter can have an interrupt: a failure with a
value that tells about it, a jump to the end of a label, or the end of the
evaluation because filters are nested too deep.  The outputs behind an
interrupt are still there for those who handle it.
-/

namespace FontCompiler.Query

/-- What stands in the place of an output. -/
inductive Interrupt
  | failure (cause : Value)
  | leave (label : Nat)
  | exhausted

/-- An output or what stands in its place. -/
abbrev Result := Except Interrupt Value

/-- The outputs of a filter. -/
abbrev Results := Outputs Result

/-- The failures of the operations on values. -/
inductive Mistake
  | unusable (value : Value) (use : String)
  | notIndexable (value key : Value)
  | outOfBounds (index : Value)
  | notComputable (left : Value) (symbol : String) (right : Value)
  | lengthless (value : Value)
  | unsplittable
  | unreadable (text : String) (fault : TextFault)
  | notPath (input : Value)

/-- The wording of a failure. -/
def Mistake.message : Mistake → String
  | .unusable value use => "cannot use " ++ value.text ++ " as " ++ use
  | .notIndexable value key => "cannot index " ++ value.text ++ " with " ++ key.text
  | .outOfBounds index => "index " ++ index.text ++ " out of bounds"
  | .notComputable left symbol right =>
    "cannot calculate " ++ left.text ++ " " ++ symbol ++ " " ++ right.text
  | .lengthless value => value.text ++ " has no length"
  | .unsplittable => "split input and separator must be strings"
  | .unreadable text fault => "cannot parse " ++ text ++ " as JSON: " ++ fault.message
  | .notPath input => "invalid path expression with input " ++ input.text

/-- The interrupt of a failure. -/
def Mistake.interrupt (mistake : Mistake) : Interrupt :=
  .failure (.string mistake.message)

/-- A failure in the place of a result. -/
def fail {α : Type} (mistake : Mistake) : Except Interrupt α :=
  .error mistake.interrupt

namespace Outputs

/-- A value as the only output. -/
def value (value : Value) : Results :=
  one (.ok value)

/-- An interrupt as the only output. -/
def interrupt {α : Type} (cause : Interrupt) : Outputs (Except Interrupt α) :=
  one (.error cause)

/-- The results of an operation for every output of one filter with every output of another. -/
def combine (apply : Value → Value → Result) (lefts : Results) (rights : Unit → Results) :
    Results :=
  lefts.bind fun left => (rights ()).map fun right => do apply (← left) (← right)

end Outputs

end FontCompiler.Query
