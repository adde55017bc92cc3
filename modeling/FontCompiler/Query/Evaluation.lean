import FontCompiler.Query.Builtin
import FontCompiler.Query.Environment
import FontCompiler.Query.Parser

/-!
# Evaluation

A filter is evaluated in two ways.  Run on an input, it has outputs.  Used as
the target of an assignment, it says which parts of the input are updated; only
filters that consist of paths can be used so.

One step of either evaluation is defined with respect to an evaluator for the
terms inside.  Evaluators of every depth are then obtained by repeating this
step, and a filter that needs a deeper one is exhausted.
-/

namespace FontCompiler.Query

/-- A way to evaluate terms, nested up to some depth. -/
structure Evaluator where
  /-- Distinguishes the labels that are set at this depth from those further inside. -/
  depth : Nat
  run : Term → Environment → Value → Results
  update : Term → Environment → (Value → Results) → Value → Results

/-- The environments that evaluation leads to. -/
abbrev Environments := Outputs (Except Interrupt Environment)

/-- Threads a value through a row of steps; a step with several outputs splits the row. -/
def thread {α : Type} (step : α → Value → Results) :
    Outputs (Except Interrupt α) → Value → Results
  | .done, value => .value value
  | .one (.error cause), _ => .interrupt cause
  | .one (.ok item), value => step item value
  | .next (.error cause) _, _ => .interrupt cause
  | .next (.ok item) rest, value =>
    (step item value).bindOk fun value => thread step (rest ()) value
  | .later row, value => thread step (row ()) value

/-- Threads a value through a row of steps and shows what becomes of it on the way. -/
def threadEach {α : Type} (step reveal : α → Value → Results) :
    Outputs (Except Interrupt α) → Value → Results
  | .done, _ => .done
  | .one (.error cause), _ => .interrupt cause
  | .one (.ok item), value => (step item value).bindOk (reveal item)
  | .next (.error cause) _, _ => .interrupt cause
  | .next (.ok item) rest, value =>
    (step item value).bindOk fun value =>
      (reveal item value).append fun _ => threadEach step reveal (rest ()) value
  | .later row, value => threadEach step reveal (row ()) value

/-- Updates what a row of steps leads to, each step from where the one before it led. -/
def nest {α : Type} (step : α → (Value → Results) → Value → Results)
    (update : Value → Results) : Outputs (Except Interrupt α) → Value → Results
  | .done, value => update value
  | .one (.error cause), _ => .interrupt cause
  | .one (.ok item), value => step item update value
  | .next (.error cause) _, _ => .interrupt cause
  | .next (.ok item) rest, value => step item (fun value => nest step update (rest ()) value) value
  | .later row, value => nest step update (row ()) value

/-- Updates what is shown on the way along a row of steps, before the way goes on. -/
def nestEach {α : Type} (step reveal : α → (Value → Results) → Value → Results)
    (update : Value → Results) : Outputs (Except Interrupt α) → Value → Results
  | .done, value => .value value
  | .one (.error cause), _ => .interrupt cause
  | .one (.ok item), value => step item (reveal item update) value
  | .next (.error cause) _, _ => .interrupt cause
  | .next (.ok item) rest, value =>
    step item (fun value => (reveal item update value).bindOk fun value =>
      nestEach step reveal update (rest ()) value) value
  | .later row, value => nestEach step reveal update (row ()) value

namespace Evaluator

variable (inner : Evaluator)

/-- The single-entry objects of an entry. -/
def entry (key : Term) (value : Option Term) (environment : Environment) (input : Value) :
    Results :=
  Outputs.combine single (inner.run key environment input)
    fun _ => inner.run (value.getD (.path .identity [.key key false])) environment input
where
  /-- The object with one entry. -/
  single (key value : Value) : Result :=
    match key with
    | .string name => .ok (.object [(name, value)])
    | _ => fail (.unusable key "string")

/-- The texts of a piece. -/
def piece (environment : Environment) (input : Value) : Piece → Results
  | .chars text => .value (.string text)
  | .term term =>
    (inner.run term environment input).map fun result => do
      return .string (← result).plainText

/-- The texts of pieces one after the other, behind given texts. -/
def pieces (environment : Environment) (input : Value) (texts : Results) :
    List Piece → Results
  | [] => texts
  | next :: others =>
    pieces environment input
      (Outputs.combine Arithmetic.add.apply texts fun _ => inner.piece environment input next)
      others

/-- The objects with the given entries, behind given objects. -/
def entries (environment : Environment) (input : Value) (objects : Results) :
    List (Term × Option Term) → Results
  | [] => objects
  | (key, value) :: others =>
    entries environment input
      (Outputs.combine Arithmetic.add.apply objects
        fun _ => inner.entry key value environment input)
      others

mutual

/-- The environments in which the parts of a value are bound by a pattern.  The keys in the
pattern are evaluated on the value that they are looked up in, without the variables of the
pattern. -/
def bindPattern (scope : Environment) (value : Value) : Pattern → Environment → Environments
  | .variable name, environment => .one (.ok (.variable name value environment))
  | .array items, environment => bindItems scope value 0 items environment
  | .object entries, environment => bindEntries scope value entries environment

/-- The environments in which the items of a value are bound by patterns. -/
def bindItems (scope : Environment) (value : Value) (index : Nat) :
    List Pattern → Environment → Environments
  | [], environment => .one (.ok environment)
  | item :: items, environment =>
    match value.part (.int index) with
    | .error cause => .interrupt cause
    | .ok part =>
      (bindPattern scope part item environment).bindOk (bindItems scope value (index + 1) items)

/-- The environments in which the entries of a value are bound by patterns. -/
def bindEntries (scope : Environment) (value : Value) :
    List (Term × Pattern) → Environment → Environments
  | [], environment => .one (.ok environment)
  | (key, pattern) :: entries, environment =>
    (inner.run key scope value).bindOk fun key =>
      match value.part key with
      | .error cause => .interrupt cause
      | .ok part =>
        (bindPattern scope part pattern environment).bindOk (bindEntries scope value entries)

end

/-- The environments of a binding, one for every output of its source. -/
def bindings (source : Term) (pattern : Pattern) (environment : Environment) (input : Value) :
    Environments :=
  (inner.run source environment input).bindOk fun value =>
    inner.bindPattern environment value pattern environment

/-- The environments in which the parameters of a definition mean its arguments. -/
def bindArguments (caller : Environment) (input : Value) :
    List Parameter → List Term → Environment → Environments
  | .filter name :: parameters, argument :: arguments, environment =>
    bindArguments caller input parameters arguments (.argument name argument caller environment)
  | .variable name :: parameters, argument :: arguments, environment =>
    (inner.run argument caller input).bindOk fun value =>
      bindArguments caller input parameters arguments (.variable name value environment)
  | _, _, environment => .one (.ok environment)

/-- The bounds of a slice. -/
def bounds (environment : Environment) (input : Value) :
    Option Term → Outputs (Except Interrupt (Option Value))
  | none => .one (.ok none)
  | some term => (inner.run term environment input).map fun result => do return some (← result)

/-- The steps that a part of a path stands for. -/
def steps (environment : Environment) (input : Value) :
    Part → Outputs (Except Interrupt PathStep)
  | .items optional => .one (.ok ⟨.items, optional⟩)
  | .key key optional =>
    (inner.run key environment input).map fun result => do return ⟨.part (← result), optional⟩
  | .slice first last optional =>
    (inner.bounds environment input first).bind fun first =>
      (inner.bounds environment input last).map fun last => do
        return ⟨.slice (← first) (← last), optional⟩

/-- The rows of steps that the parts of a path stand for. -/
def paths (environment : Environment) (input : Value) :
    List Part → Outputs (Except Interrupt (List PathStep))
  | [] => .one (.ok [])
  | part :: parts =>
    (inner.steps environment input part).bindOk fun step =>
      (paths environment input parts).map fun result => do return step :: (← result)

/-- The combinations of the outputs of some terms. -/
def values (environment : Environment) (input : Value) :
    List Term → Outputs (Except Interrupt (List Value))
  | [] => .one (.ok [])
  | term :: terms =>
    (inner.run term environment input).bindOk fun value =>
      (values environment input terms).map fun result => do return value :: (← result)

/-- An item of an array with its key. -/
def keyed (term : Term) (environment : Environment) (item : Value) :
    Except Interrupt Keyed := do
  return (← (inner.run term environment item).gather, item)

/-- A failure with the input, or with the first output of an argument; the input stays if the
argument has none. -/
def raise (arguments : List Term) (environment : Environment) (input : Value) : Results :=
  match arguments with
  | [] => .interrupt (.failure input)
  | argument :: _ =>
    match (inner.run argument environment input).head? with
    | none => .value input
    | some (.ok cause) => .interrupt (.failure cause)
    | some (.error cause) => .interrupt cause

/-- The outputs of a builtin filter. -/
def runBuiltin (builtin : Builtin) (arguments : List Term) (environment : Environment)
    (input : Value) : Results :=
  match builtin, arguments with
  | .plain apply, _ => .one (apply input)
  | .withValue apply, [argument] =>
    (inner.run argument environment input).map fun result => do apply (← result) input
  | .byKeys apply, [argument] =>
    .one do
      let items ← Builtin.itemsOf input
      return apply (← items.mapM (inner.keyed argument environment))
  | .range, [first, bound, step] =>
    (inner.run first environment input).bindOk fun first =>
      (inner.run bound environment input).bindOk fun bound =>
        (inner.run step environment input).bindOk fun step => Builtin.rangeOf first bound step
  | .first, [argument] => (inner.run argument environment input).take 1
  | .last, [argument] => Builtin.lastOf (inner.run argument environment input)
  | .raise, arguments => inner.raise arguments environment input
  | .limit, [count, argument] =>
    (inner.run count environment input).bindOk fun count =>
      Builtin.limited count fun _ => inner.run argument environment input
  | _, _ => .done

/-- The outputs of a filter by its name.  They are put off, so that a call at the end of a
filter takes the place of the filter. -/
def runCall (name : String) (arguments : List Term) (environment : Environment)
    (input : Value) : Results :=
  match environment.filterOf? name arguments.length with
  | some (.argument term scope) => .later fun _ => inner.run term scope input
  | some (.definition made scope) =>
    (inner.bindArguments environment input made.parameters arguments scope).bindOk
      fun environment => .later fun _ => inner.run made.body environment input
  | none =>
    match Builtin.named? name arguments.length with
    | some builtin => inner.runBuiltin builtin arguments environment input
    | none => .done

/-- The new value of a part under an assignment whose right side has a given output. -/
def assigned (assignment : Assignment) (right old : Value) : Result :=
  match assignment with
  | .arithmetic operator => operator.apply old right
  | .alternative => .ok (if old.truth then old else right)
  | _ => .ok right

/-- The outputs of a term with an operator. -/
def runOperator (operator : Operator) (left right : Term) (environment : Environment)
    (input : Value) : Results :=
  let lefts (_ : Unit) : Results := inner.run left environment input
  let rights (_ : Unit) : Results := inner.run right environment input
  match operator with
  | .pipe => (lefts ()).bindOk (inner.run right environment)
  | .comma => (lefts ()).append rights
  | .alternative =>
    match (lefts ()).filter holds with
    | .done => rights ()
    | chosen => chosen
  | .or => (lefts ()).bindOk fun left =>
    if left.truth then .value (.bool true) else (rights ()).map truth
  | .and => (lefts ()).bindOk fun left =>
    if left.truth then (rights ()).map truth else .value (.bool false)
  | .comparison comparison =>
    Outputs.combine (fun left right => .ok (.bool (comparison.holds left right))) (lefts ()) rights
  | .arithmetic operator => Outputs.combine operator.apply (lefts ()) rights
  | .assignment .update =>
    inner.update left environment (inner.run right environment) input
  | .assignment assignment => (rights ()).bindOk fun right =>
    inner.update left environment (fun old => .one (assigned assignment right old)) input
where
  /-- The truth of a result. -/
  truth (result : Result) : Result := do
    return .bool (← result).truth
  /-- Whether a result is neither null nor false. -/
  holds : Result → Bool
    | .ok value => value.truth
    | .error _ => true

/-- Whether a result leaves a label. -/
def leaves (label : Nat) : Result → Bool
  | .error (.leave other) => other == label
  | _ => false

/-- The outputs of a term. -/
def runTerm (term : Term) (environment : Environment) (input : Value) : Results :=
  match term with
  | .identity => .value input
  | .descendants => (Outputs.ofList input.descendants).map .ok
  | .numeral text => .value (.ofNumeral text)
  | .text list => inner.pieces environment input (.value (.string "")) list
  | .emptyArray => .value (.array [])
  | .array items =>
    match (inner.run items environment input).gather with
    | .ok values => .value (.array values)
    | .error cause => .interrupt cause
  | .object list => inner.entries environment input (.value (.object [])) list
  | .negation operand =>
    (inner.run operand environment input).map fun result => do (← result).negate
  | .binary operator left right => inner.runOperator operator left right environment input
  | .binding source pattern body =>
    (inner.bindings source pattern environment input).bindOk fun environment =>
      inner.run body environment input
  | .label name body =>
    (inner.run body (.label name inner.depth environment) input).upTo (leaves inner.depth)
  | .leave name =>
    match environment.labelOf? name with
    | some label => .interrupt (.leave label)
    | none => .done
  | .reduce source pattern start update =>
    (inner.run start environment input).bindOk
      (thread (inner.run update) (inner.bindings source pattern environment input))
  | .foreach source pattern start update extract =>
    (inner.run start environment input).bindOk
      (threadEach (inner.run update) (inner.run extract)
        (inner.bindings source pattern environment input))
  | .attempt body handler =>
    (inner.run body environment input).divert fun
      | .error (.failure cause) => some fun _ => inner.run handler environment cause
      | _ => none
  | .conditional condition yes no =>
    (inner.run condition environment input).bindOk fun condition =>
      inner.run (if condition.truth then yes else no) environment input
  | .definition made body => inner.run body (.definition made environment) input
  | .call name arguments => inner.runCall name arguments environment input
  | .variable name =>
    match environment.valueOf? name with
    | some value => .value value
    | none => .done
  | .path source parts =>
    (inner.run source environment input).bindOk fun value =>
      (inner.paths environment input parts).bindOk fun path => PathStep.followAll path value

/-- Updates the parts at the end of several rows of steps, one row after the other. -/
def updatePaths (update : Value → Results) :
    List (List PathStep) → Value → Results
  | [], value => .value value
  | path :: paths, value =>
    match Value.firstOf (PathStep.updateAll update path value) with
    | .error cause => .interrupt cause
    | .ok none => .value value
    | .ok (some value) => updatePaths update paths value

/-- Updates what a builtin filter leads to.  None of them is a path, but a filter whose
arguments have no outputs is not asked for one. -/
def updateBuiltin (builtin : Builtin) (arguments : List Term) (environment : Environment)
    (input : Value) : Results :=
  let refuse (_ : List Value) (value : Value) : Results :=
    .interrupt (Mistake.notPath value).interrupt
  match builtin, arguments with
  | .withValue _, [argument] => thread refuse (inner.values environment input [argument]) input
  | .range, terms => thread refuse (inner.values environment input terms) input
  | .limit, [count, _] => thread refuse (inner.values environment input [count]) input
  | .raise, arguments => inner.raise arguments environment input
  | _, _ => refuse [] input

/-- Updates what a filter leads to by its name. -/
def updateCall (name : String) (arguments : List Term) (environment : Environment)
    (update : Value → Results) (input : Value) : Results :=
  match environment.filterOf? name arguments.length with
  | some (.argument term scope) => inner.update term scope update input
  | some (.definition made scope) =>
    thread (fun environment => inner.update made.body environment update)
      (inner.bindArguments environment input made.parameters arguments scope) input
  | none =>
    match Builtin.named? name arguments.length with
    | some builtin => inner.updateBuiltin builtin arguments environment input
    | none => .done

/-- Updates what a term leads to. -/
def updateTerm (term : Term) (environment : Environment) (update : Value → Results)
    (input : Value) : Results :=
  match term with
  | .identity => update input
  | .descendants => input.updateDescendants update
  | .binary .pipe left right =>
    inner.update left environment (inner.update right environment update) input
  | .binary .comma left right =>
    (inner.update left environment update input).bindOk (inner.update right environment update)
  | .binary .alternative left right =>
    let chosen := (inner.run left environment input).any (runOperator.holds ·)
    inner.update (if chosen then left else right) environment update input
  | .binding source pattern body =>
    thread (fun environment => inner.update body environment update)
      (inner.bindings source pattern environment input) input
  | .conditional condition yes no =>
    thread (fun condition =>
        inner.update (if condition.truth then yes else no) environment update)
      (inner.run condition environment input) input
  | .definition made body => inner.update body (.definition made environment) update input
  | .reduce source pattern start step =>
    inner.update start environment (fun value =>
      nest (inner.update step) update (inner.bindings source pattern environment input) value)
      input
  | .foreach source pattern start step extract =>
    inner.update start environment (fun value =>
      nestEach (inner.update step) (inner.update extract) update
        (inner.bindings source pattern environment input) value) input
  | .call name arguments => inner.updateCall name arguments environment update input
  | .path source parts =>
    inner.update source environment (fun value =>
      match (inner.paths environment input parts).gather with
      | .error cause => .interrupt cause
      | .ok paths => updatePaths update paths value) input
  | _ => .interrupt (Mistake.notPath input).interrupt

/-- The evaluator of a given depth. -/
def ofDepth : Nat → Evaluator
  | 0 => ⟨0, fun _ _ _ => .interrupt .exhausted, fun _ _ _ _ => .interrupt .exhausted⟩
  | depth + 1 =>
    ⟨depth + 1, fun term => (ofDepth depth).runTerm term,
      fun term => (ofDepth depth).updateTerm term⟩

end Evaluator

end FontCompiler.Query
