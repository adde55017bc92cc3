import FontCompiler.Query.Term

/-!
# Environments

An environment tells what the names in a term mean.  A filter that is passed as
an argument keeps the environment of its caller, and a definition is evaluated
in the environment in which it was made, which contains the definition itself.
-/

namespace FontCompiler.Query

/-- The meaning of names, the latest first. -/
inductive Environment
  | empty
  | variable (name : String) (value : Value) (others : Environment)
  | label (name : String) (id : Nat) (others : Environment)
  | argument (name : String) (term : Term) (scope others : Environment)
  | definition (definition : Definition) (others : Environment)

/-- What the name of a filter means. -/
inductive Callee
  | argument (term : Term) (scope : Environment)
  | definition (definition : Definition) (scope : Environment)

namespace Environment

/-- The value of a variable. -/
def valueOf? (name : String) : Environment → Option Value
  | .empty => none
  | .variable other value others => if other = name then some value else valueOf? name others
  | .label _ _ others => valueOf? name others
  | .argument _ _ _ others => valueOf? name others
  | .definition _ others => valueOf? name others

/-- The label that a name means. -/
def labelOf? (name : String) : Environment → Option Nat
  | .empty => none
  | .variable _ _ others => labelOf? name others
  | .label other id others => if other = name then some id else labelOf? name others
  | .argument _ _ _ others => labelOf? name others
  | .definition _ others => labelOf? name others

/-- The filter that a name with a number of arguments means. -/
def filterOf? (name : String) (arity : Nat) : Environment → Option Callee
  | .empty => none
  | .variable _ _ others => filterOf? name arity others
  | .label _ _ others => filterOf? name arity others
  | .argument other term scope others =>
    if arity = 0 ∧ other = name then some (.argument term scope) else filterOf? name arity others
  | .definition made others =>
    if made.parameters.length = arity ∧ made.name = name then
      some (.definition made (.definition made others))
    else filterOf? name arity others

/-- The environment with further definitions, each of which sees those in front of it. -/
def define (environment : Environment) (definitions : List Definition) : Environment :=
  definitions.foldl (fun environment made => .definition made environment) environment

end Environment

end FontCompiler.Query
