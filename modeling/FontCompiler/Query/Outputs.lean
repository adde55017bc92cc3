/-!
# Outputs

A filter has any number of outputs, one after the other.  They are computed on
demand: whoever takes the first output does not pay for the second, and an
endless row of outputs can still be cut short.  A row of which only one output
is left says so, and a row can be put off as a whole; both keep chains of calls
short, because the last call of a filter takes the place of the filter.
-/

namespace FontCompiler.Query

universe u v

/-- A row of outputs, of which at most the first is computed. -/
inductive Outputs (α : Type u)
  | done
  /-- The last output. -/
  | one (item : α)
  /-- An output that others may follow. -/
  | next (head : α) (rest : Unit → Outputs α)
  /-- A row that is not looked at yet. -/
  | later (row : Unit → Outputs α)

namespace Outputs

variable {α : Type u} {β : Type v} {ε : Type v}

/-- The items of a list. -/
def ofList : List α → Outputs α
  | [] => .done
  | [item] => .one item
  | item :: items => .next item fun _ => ofList items

/-- All outputs in a list. -/
def toList : Outputs α → List α
  | .done => []
  | .one item => [item]
  | .next item rest => item :: toList (rest ())
  | .later row => toList (row ())

/-- The first output. -/
def head? : Outputs α → Option α
  | .done => none
  | .one item => some item
  | .next item _ => some item
  | .later row => head? (row ())

/-- The outputs of one row, then those of another. -/
def append : Outputs α → (Unit → Outputs α) → Outputs α
  | .done, others => others ()
  | .one item, others => .next item others
  | .next item rest, others => .next item fun _ => append (rest ()) others
  | .later row, others => append (row ()) others

/-- Every output through a function. -/
def map (apply : α → β) : Outputs α → Outputs β
  | .done => .done
  | .one item => .one (apply item)
  | .next item rest => .next (apply item) fun _ => map apply (rest ())
  | .later row => map apply (row ())

/-- For every output the outputs that a function gives for it. -/
def bind (apply : α → Outputs β) : Outputs α → Outputs β
  | .done => .done
  | .one item => apply item
  | .next item rest => append (apply item) fun _ => bind apply (rest ())
  | .later row => bind apply (row ())

/-- The outputs that satisfy a condition. -/
def filter (keep : α → Bool) : Outputs α → Outputs α
  | .done => .done
  | .one item => if keep item then .one item else .done
  | .next item rest =>
    if keep item then .next item fun _ => filter keep (rest ()) else filter keep (rest ())
  | .later row => filter keep (row ())

/-- The first outputs, up to a given number. -/
def take : Nat → Outputs α → Outputs α
  | 0, _ => .done
  | _, .done => .done
  | _, .one item => .one item
  | count + 1, .next item rest =>
    if count = 0 then .one item else .next item fun _ => take count (rest ())
  | count + 1, .later row => take (count + 1) (row ())

/-- Whether some output satisfies a condition. -/
def any (holds : α → Bool) : Outputs α → Bool
  | .done => false
  | .one item => holds item
  | .next item rest => holds item || any holds (rest ())
  | .later row => any holds (row ())

/-- The outputs in front of the first one that satisfies a condition. -/
def upTo (stop : α → Bool) : Outputs α → Outputs α
  | .done => .done
  | .one item => if stop item then .done else .one item
  | .next item rest => if stop item then .done else .next item fun _ => upTo stop (rest ())
  | .later row => upTo stop (row ())

/-- The outputs up to the first one that a function has outputs for, which take its place and
that of everything behind it. -/
def divert (apply : α → Option (Unit → Outputs α)) : Outputs α → Outputs α
  | .done => .done
  | .one item =>
    match apply item with
    | some others => others ()
    | none => .one item
  | .next item rest =>
    match apply item with
    | some others => others ()
    | none => .next item fun _ => divert apply (rest ())
  | .later row => divert apply (row ())

/-- All outputs in a list, in front of which the given ones stand in reverse order; the
first failure stands for the whole row. -/
def gatherFrom (read : List α) : Outputs (Except ε α) → Except ε (List α)
  | .done => .ok read.reverse
  | .one (.error cause) => .error cause
  | .one (.ok item) => .ok (item :: read).reverse
  | .next (.error cause) _ => .error cause
  | .next (.ok item) rest => gatherFrom (item :: read) (rest ())
  | .later row => gatherFrom read (row ())

/-- All outputs in a list; the first failure stands for the whole row. -/
def gather (outputs : Outputs (Except ε α)) : Except ε (List α) :=
  gatherFrom [] outputs

/-- For every output the outputs that a function gives for it; failures stay. -/
def bindOk (apply : α → Outputs (Except ε β)) :
    Outputs (Except ε α) → Outputs (Except ε β) :=
  bind fun
    | .ok item => apply item
    | .error cause => .one (.error cause)

end Outputs

end FontCompiler.Query
