import FontCompiler.Code
import FontCompiler.Graph.Node
import FontCompiler.Log
import FontCompiler.Numeric.Decimal
import FontCompiler.Text.Hex

/-!
# Factories

A factory is a generated method that rebuilds the object graph of a font.  The
graph is walked depth first.  Every dictionary and every stream becomes a
declaration of its own, bound to a name, and the place where it is used holds a
reference to that name.

A declaration may begin in the middle of another one, so each is written into a
frame of its own.  A finished frame goes to the output and leaves a reference
in the frame below.  Declarations therefore stand before their first use.

Small payloads are written into the code; large ones go into sidecar files that
are named after the property they hang off.
-/

namespace FontCompiler.Factory

open FontCompiler.Graph Numeric

/-- Payloads of this size and above go into a sidecar file. -/
def inlineLimit : Nat := 256

/-- The property of the root, and so the name that the factory returns. -/
def rootProperty : String := "font"

/-- The indent of dictionary entries. -/
def entryIndent : Nat := Code.statementIndent + 4

/-- The indent of the items of an outermost array. -/
def itemIndent : Nat := entryIndent + 4

/-- Why a graph has no factory. -/
inductive Refusal
  /-- Truth values and nulls do not occur in embedded fonts. -/
  | unsupportedNode (kind : Node.Kind) (property : String)
  /-- The property does not turn into an identifier. -/
  | invalidBinding (property : String)
  deriving DecidableEq, Repr

/-- The wording of a refusal. -/
def Refusal.message : Refusal → String
  | .unsupportedNode kind property =>
    "unsupported " ++ kind.word ++ " node under `" ++ property ++ "`"
  | .invalidBinding property =>
    "property `" ++ property ++ "` does not yield a valid binding name"

/-- A payload that is stored beside the generated code. -/
structure Sidecar where
  name : String
  bytes : List UInt8
  deriving DecidableEq, Repr

/-- A declaration under construction. -/
structure Frame where
  binding : String
  text : Code
  deriving DecidableEq, Repr

/-- What has been written so far. -/
structure State where
  /-- The finished declarations. -/
  out : Code
  /-- The innermost unfinished declaration. -/
  current : Frame
  /-- The unfinished declarations around it, the nearest first. -/
  suspended : List Frame
  /-- The payloads stored aside, in the order of the walk. -/
  sidecars : List Sidecar
  /-- The names bound so far, without repetition, the latest first. -/
  declared : List String
  records : List Log.Record
  deriving DecidableEq, Repr

/-- The end of a walk that meets a refusal, with the records up to there. -/
structure Stop where
  refusal : Refusal
  records : List Log.Record
  deriving DecidableEq, Repr

namespace State

/-- Nothing written. -/
def initial : State :=
  ⟨.empty, ⟨"", .empty⟩, [], [], [], []⟩

/-- Adds text to the innermost declaration. -/
def push (state : State) (text : String) : State :=
  { state with current := { state.current with text := state.current.text.push text } }

/-- Adds a line to the innermost declaration. -/
def line (state : State) (indent : Nat) (text : String) : State :=
  { state with current := { state.current with text := state.current.text.line indent text } }

/-- Adds a line to the finished output. -/
def outLine (state : State) (indent : Nat) (text : String) : State :=
  { state with out := state.out.line indent text }

/-- Adds a record. -/
def report (state : State) (level : Log.Level) (message : String) : State :=
  { state with records := state.records ++ [⟨level, .factory, message⟩] }

/-- Gives up. -/
def stop {α : Type} (state : State) (refusal : Refusal) : Except Stop α :=
  .error ⟨refusal, state.records⟩

end State

/-- Opens a frame for a property and returns the name that the property is bound to. -/
def beginFrame (label property : String) (state : State) : Except Stop (String × State) :=
  let binding := Text.lowerFirst property
  if !Code.isIdentifier binding then state.stop (.invalidBinding property)
  else
    let repeated := state.declared.contains binding
    let state :=
      if repeated then
        state.report .warn
          ("binding `" ++ binding ++ "` is declared more than once in Create" ++ label)
      else { state with declared := binding :: state.declared }
    let state :=
      state.report .trace
        ("begin frame `" ++ binding ++ "` (depth " ++
          decimalDigits (state.suspended.length + 1) ++ ")")
    .ok (binding,
      { state with current := ⟨binding, .empty⟩, suspended := state.current :: state.suspended })

/-- Moves the innermost declaration to the output and resumes the one around it. -/
def endFrame (state : State) : State :=
  let (parent, suspended) :=
    match state.suspended with
    | parent :: others => (parent, others)
    | [] => (⟨"", .empty⟩, [])
  { state with
    current := parent
    suspended := suspended
    out := state.out.append state.current.text }.report .trace
      ("flush frame `" ++ state.current.binding ++ "` (depth " ++
        decimalDigits suspended.length ++ ")")

/-- The expression that refers to a declared object. -/
def reference (binding : String) : String :=
  "document.CreateReference(" ++ binding ++ ")"

/-- The literal of a single-precision number: six places and a suffix. -/
def floatLiteral (number : Binary32) : String :=
  (match number.value with
    | .nan => "NaN"
    | .infinite negative => if negative then "-inf" else "inf"
    | .finite negative units =>
      (if negative then "-" else "") ++ fixedPlaces .binary32 6 units) ++ "f"

/-- The literal of a payload. -/
def payloadLiteral (payload : List UInt8) : String :=
  "new byte[] \x7b " ++
    String.join (payload.map fun byte => "0x" ++ Text.upperHex 2 byte.toNat ++ ", ") ++ "\x7d"

/-- The name of the sidecar file of a property. -/
def sidecarName (label property : String) : String :=
  label ++ "-" ++ property ++ ".bin"

/-- Writes the payload of a stream, or a reference to its sidecar file. -/
def writePayload (label property binding : String) (payload : List UInt8) (state : State) :
    State :=
  if payload.length < inlineLimit then state.push (payloadLiteral payload)
  else
    let name := sidecarName label property
    let state :=
      state.report .debug
        ("spilling " ++ decimalDigits payload.length ++ " byte payload of `" ++ binding ++
          "` to " ++ name)
    let state := state.push ("\"" ++ name ++ "\"")
    { state with sidecars := state.sidecars ++ [⟨name, payload⟩] }

/-- Writes the first lines of a declaration. -/
def openDeclaration (type binding : String) (state : State) : State :=
  (state.line Code.statementIndent
    ("var " ++ binding ++ " = new " ++ type ++ "(new Dictionary<string, object>")).line
    Code.statementIndent "\x7b"

/-- Finishes a declaration and refers to it from the one around it. -/
def closeDeclaration (binding : String) (state : State) : State :=
  (endFrame state).push (reference binding)

mutual

/-- Writes a node at the place where a property uses it. -/
def writeNode (label property : String) (nesting : Nat) :
    Node → State → Except Stop State
  | .dictionary entries, state => do
    let (binding, state) ← beginFrame label property state
    let state ← writeEntries label entries (openDeclaration "GeneralDict" binding state)
    let state := (state.line Code.statementIndent "\x7d);").push "\n"
    return closeDeclaration binding state
  | .stream entries payload, state => do
    let (binding, state) ← beginFrame label property state
    let state ← writeEntries label entries (openDeclaration "StreamData" binding state)
    let state := (state.push (Code.blanks Code.statementIndent)).push "\x7d, "
    let state := (writePayload label property binding payload state).push ");\n\n\n"
    return closeDeclaration binding state
  | .array items, state => do
    let outermost := nesting == 0
    let state := state.push (if outermost then "new object[] \x7b\n" else "new int[] \x7b ")
    let state ← writeItems label property nesting items state
    let state := if outermost then state.push (Code.blanks entryIndent) else state
    return state.push "\x7d"
  | .float value, state => .ok (state.push (floatLiteral value))
  | .integer value, state => .ok (state.push (decimalInt value.toInt))
  | .name text, state => .ok (state.push ("new Name(\"" ++ text ++ "\")"))
  | .string text, state => .ok (state.push ("\"" ++ text ++ "\""))
  | .boolean _, state => state.stop (.unsupportedNode .boolean property)
  | .null, state => state.stop (.unsupportedNode .null property)

/-- Writes the items of an array; those of an outermost array have lines of their own. -/
def writeItems (label property : String) (nesting : Nat) :
    List Node → State → Except Stop State
  | [], state => .ok state
  | item :: items, state => do
    let outermost := nesting == 0
    let state := if outermost then state.push (Code.blanks itemIndent) else state
    let state ← writeNode label property (nesting + 1) item state
    let state := state.push (if outermost then ",\n" else ", ")
    writeItems label property nesting items state

/-- Writes the entries of a dictionary, each on a line that its key opens. -/
def writeEntries (label : String) : List (String × Node) → State → Except Stop State
  | [], state => .ok state
  | (key, value) :: entries, state => do
    let state := (state.push (Code.blanks entryIndent)).push ("\x7b \"" ++ key ++ "\", ")
    let state ← writeNode label key 0 value state
    writeEntries label entries (state.push " \x7d,\n")

end

/-- A finished factory with its sidecar files and the records of the walk. -/
structure Product where
  source : String
  sidecars : List Sidecar
  records : List Log.Record
  deriving DecidableEq, Repr

/-- Writes the lines that open a factory. -/
def prologue (label : String) (state : State) : State :=
  ((state.outLine Code.memberIndent Code.header).outLine Code.memberIndent
    ("internal static GeneralDict Create" ++ label ++ "(Document document)")).outLine
    Code.memberIndent "\x7b"

/-- Writes the lines that close a factory. -/
def epilogue (binding : String) (state : State) : State :=
  let state :=
    (state.outLine Code.statementIndent ("return " ++ binding ++ ";")).outLine
      Code.memberIndent "\x7d"
  { state with out := state.out.blank }

/-- The factory of the graph under a root dictionary. -/
def compile (root : Dictionary) (label : String) : Except Stop Product := do
  let state ← writeNode label rootProperty 0 (.dictionary root) (prologue label .initial)
  let state := epilogue (Text.lowerFirst rootProperty) state
  let state :=
    state.report .debug
      ("emitted factory for " ++ label ++ " (" ++ decimalDigits state.declared.length ++
        " declarations, " ++ decimalDigits state.sidecars.length ++ " sidecars)")
  return ⟨state.out.text, state.sidecars, state.records⟩

end FontCompiler.Factory
