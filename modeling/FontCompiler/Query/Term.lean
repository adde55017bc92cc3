import FontCompiler.Query.Arithmetic

/-!
# Terms of the query language

A filter is written as a term.  A path leads from the outputs of a term to
their parts, step by step, and a step may be marked as optional.
-/

namespace FontCompiler.Query

/-- The comparisons. -/
inductive Comparison
  | equal
  | unequal
  | less
  | notGreater
  | greater
  | notLess
  deriving DecidableEq, Repr

namespace Comparison

/-- Whether a comparison holds between two values. -/
def holds (comparison : Comparison) (left right : Value) : Bool :=
  let order := left.order right
  match comparison with
  | .equal => order == .eq
  | .unequal => order != .eq
  | .less => order == .lt
  | .notGreater => order != .gt
  | .greater => order == .gt
  | .notLess => order != .lt

end Comparison

/-- The ways to write to what a path leads to. -/
inductive Assignment
  /-- The same value everywhere. -/
  | assign
  /-- A filter of the old value. -/
  | update
  /-- The old value combined with another value. -/
  | arithmetic (operator : Arithmetic)
  /-- A value in the place of null and false. -/
  | alternative
  deriving DecidableEq, Repr

/-- The operators between two terms. -/
inductive Operator
  | pipe
  | comma
  | assignment (assignment : Assignment)
  | alternative
  | or
  | and
  | comparison (comparison : Comparison)
  | arithmetic (operator : Arithmetic)
  deriving DecidableEq, Repr

/-- The parameter of a definition: the name of a filter, or of a variable without its
dollar sign. -/
inductive Parameter
  | filter (name : String)
  | variable (name : String)
  deriving DecidableEq, Repr

mutual

/-- A filter as it is written. -/
inductive Term
  | identity
  | descendants
  | numeral (text : String)
  | text (pieces : List Piece)
  | emptyArray
  | array (items : Term)
  /-- An object; an entry without a value takes the part of the input under its key. -/
  | object (entries : List (Term × Option Term))
  | negation (operand : Term)
  | binary (operator : Operator) (left right : Term)
  | binding (source : Term) (pattern : Pattern) (body : Term)
  | label (name : String) (body : Term)
  | leave (name : String)
  | reduce (source : Term) (pattern : Pattern) (start update : Term)
  | foreach (source : Term) (pattern : Pattern) (start update extract : Term)
  | attempt (body handler : Term)
  | conditional (condition yes no : Term)
  | definition (definition : Definition) (body : Term)
  | call (name : String) (arguments : List Term)
  | variable (name : String)
  | path (source : Term) (parts : List Part)

/-- A piece of a text: characters, or a filter whose outputs are inserted. -/
inductive Piece
  | chars (text : String)
  | term (term : Term)

/-- A step of a path. -/
inductive Part
  | items (optional : Bool)
  | key (key : Term) (optional : Bool)
  | slice (first last : Option Term) (optional : Bool)

/-- How the parts of a value are bound to variables. -/
inductive Pattern
  | variable (name : String)
  | array (items : List Pattern)
  | object (entries : List (Term × Pattern))

/-- A named filter with parameters. -/
inductive Definition
  | define (name : String) (parameters : List Parameter) (body : Term)

end

instance : Inhabited Term := ⟨.identity⟩

namespace Part

/-- The step with its failures dropped. -/
def forgiving : Part → Part
  | .items _ => .items true
  | .key term _ => .key term true
  | .slice first last _ => .slice first last true

end Part

namespace Definition

/-- The name of a definition. -/
def name : Definition → String
  | .define name _ _ => name

/-- The parameters of a definition. -/
def parameters : Definition → List Parameter
  | .define _ parameters _ => parameters

/-- The filter that is defined. -/
def body : Definition → Term
  | .define _ _ body => body

end Definition

namespace Term

/-- A fixed text. -/
def ofText (text : String) : Term :=
  .text [.chars text]

/-- The call of a filter that no definition can make, with a number of arguments: this is
what a fold with the wrong number of arguments means. -/
def missing (name : String) (arity : Nat) : Term :=
  .call name (List.replicate arity .identity)

/-- The filter without outputs. -/
def nothing : Term :=
  .call "empty" []

end Term

end FontCompiler.Query
