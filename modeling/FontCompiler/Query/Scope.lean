import FontCompiler.Query.Builtin
import FontCompiler.Query.Prelude

/-!
# Scopes

Before a filter is evaluated, all its names are looked up: every variable has
to be bound, every label set, and every filter defined with the number of
arguments that it gets.  The names without a meaning are listed in the order
in which they are met, the arguments of a filter in front of its own name, the
alternative of a condition in front of the condition, and the place where a
variable or a definition is visible in front of what it means.
-/

namespace FontCompiler.Query

/-- A name without a meaning. -/
inductive Undefined
  | variable (name : String)
  | label (name : String)
  | filter (name : String) (arity : Nat)
  deriving DecidableEq, Repr

namespace Undefined

/-- The wording of a missing name in the text of a filter. -/
def message (source : String) (missing : Undefined) : String :=
  let (name, kind) :=
    match missing with
    | .variable name => ("$" ++ name, "Var")
    | .label name => ("$" ++ name, "Label")
    | .filter name arity => (name, "Filter(" ++ Numeric.decimalDigits arity ++ ")")
  "undefined `" ++ name ++ "`: " ++ kind ++ " in `" ++ source ++ "`\n"

end Undefined

/-- The names that have a meaning at some place of a term. -/
structure Scope where
  bound : List String
  labels : List String
  filters : List (String × Nat)
  deriving DecidableEq, Repr

namespace Scope

/-- The scope with a further variable. -/
def withVariable (scope : Scope) (name : String) : Scope :=
  { scope with bound := name :: scope.bound }

/-- The scope with a further filter. -/
def withFilter (scope : Scope) (name : String) (arity : Nat) : Scope :=
  { scope with filters := (name, arity) :: scope.filters }

/-- The scope with a parameter of a definition. -/
def withParameter (scope : Scope) : Parameter → Scope
  | .filter name => scope.withFilter name 0
  | .variable name => scope.withVariable name

/-- Whether a name means a filter with a number of arguments. -/
def hasFilter (scope : Scope) (name : String) (arity : Nat) : Bool :=
  scope.filters.contains (name, arity) || (Builtin.named? name arity).isSome

/-- The scope of a whole filter. -/
def top : Scope :=
  ⟨[], [], Prelude.definitions.map fun made => (made.name, made.parameters.length)⟩

mutual

/-- The variables that a pattern binds. -/
def patternVariables : Pattern → List String
  | .variable name => [name]
  | .array items => itemVariables items
  | .object entries => entryVariables entries

/-- The variables that the patterns of items bind. -/
def itemVariables : List Pattern → List String
  | [] => []
  | item :: items => patternVariables item ++ itemVariables items

/-- The variables that the patterns of entries bind. -/
def entryVariables : List (Term × Pattern) → List String
  | [] => []
  | (_, value) :: entries => patternVariables value ++ entryVariables entries

end

/-- The scope with the variables of a pattern. -/
def withPattern (scope : Scope) (pattern : Pattern) : Scope :=
  { scope with bound := patternVariables pattern ++ scope.bound }

mutual

/-- The names of a term without a meaning. -/
def undefined (scope : Scope) : Term → List Undefined
  | .identity => []
  | .descendants => []
  | .numeral _ => []
  | .text pieces => undefinedInPieces scope pieces
  | .emptyArray => []
  | .array items => undefined scope items
  | .object entries => undefinedInEntries scope entries
  | .negation operand => undefined scope operand
  | .binary _ left right => undefined scope left ++ undefined scope right
  | .binding source pattern body =>
    undefined (scope.withPattern pattern) body ++ undefined scope source ++
      undefinedInPattern scope pattern
  | .label name body => undefined { scope with labels := name :: scope.labels } body
  | .leave name => if scope.labels.contains name then [] else [.label name]
  | .reduce source pattern start update =>
    undefined scope source ++ undefinedInPattern scope pattern ++ undefined scope start ++
      undefined (scope.withPattern pattern) update
  | .foreach source pattern start update extract =>
    undefined scope source ++ undefinedInPattern scope pattern ++ undefined scope start ++
      undefined (scope.withPattern pattern) update ++
      undefined (scope.withPattern pattern) extract
  | .attempt body handler => undefined scope body ++ undefined scope handler
  | .conditional condition yes no =>
    undefined scope no ++ undefined scope condition ++ undefined scope yes
  | .definition definition body =>
    undefined (scope.withFilter definition.name definition.parameters.length) body ++
      undefinedInDefinition scope definition
  | .call name arguments =>
    undefinedInTerms scope arguments ++
      if scope.hasFilter name arguments.length then [] else [.filter name arguments.length]
  | .variable name => if scope.bound.contains name then [] else [.variable name]
  | .path source parts => undefined scope source ++ undefinedInParts scope parts

/-- The names of terms without a meaning. -/
def undefinedInTerms (scope : Scope) : List Term → List Undefined
  | [] => []
  | term :: terms => undefined scope term ++ undefinedInTerms scope terms

/-- The names of the pieces of a text without a meaning. -/
def undefinedInPieces (scope : Scope) : List Piece → List Undefined
  | [] => []
  | .chars _ :: pieces => undefinedInPieces scope pieces
  | .term term :: pieces => undefined scope term ++ undefinedInPieces scope pieces

/-- The names of the entries of an object without a meaning. -/
def undefinedInEntries (scope : Scope) : List (Term × Option Term) → List Undefined
  | [] => []
  | (key, value) :: entries =>
    undefined scope key ++ undefinedInOption scope value ++ undefinedInEntries scope entries

/-- The names of an optional term without a meaning. -/
def undefinedInOption (scope : Scope) : Option Term → List Undefined
  | none => []
  | some term => undefined scope term

/-- The names of the steps of a path without a meaning. -/
def undefinedInParts (scope : Scope) : List Part → List Undefined
  | [] => []
  | .items _ :: parts => undefinedInParts scope parts
  | .key key _ :: parts => undefined scope key ++ undefinedInParts scope parts
  | .slice first last _ :: parts =>
    undefinedInOption scope first ++ undefinedInOption scope last ++ undefinedInParts scope parts

/-- The names of the keys of a pattern without a meaning. -/
def undefinedInPattern (scope : Scope) : Pattern → List Undefined
  | .variable _ => []
  | .array items => undefinedInPatterns scope items
  | .object entries => undefinedInPatternEntries scope entries

/-- The names of the keys of patterns without a meaning. -/
def undefinedInPatterns (scope : Scope) : List Pattern → List Undefined
  | [] => []
  | item :: items => undefinedInPattern scope item ++ undefinedInPatterns scope items

/-- The names of the keys of the entries of a pattern without a meaning. -/
def undefinedInPatternEntries (scope : Scope) : List (Term × Pattern) → List Undefined
  | [] => []
  | (key, value) :: entries =>
    undefined scope key ++ undefinedInPattern scope value ++
      undefinedInPatternEntries scope entries

/-- The names of a definition without a meaning. -/
def undefinedInDefinition (scope : Scope) : Definition → List Undefined
  | .define name parameters body =>
    undefined (parameters.foldl withParameter (scope.withFilter name parameters.length)) body

end

end Scope

end FontCompiler.Query
