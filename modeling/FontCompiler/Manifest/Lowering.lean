import FontCompiler.Files.System
import FontCompiler.Graph.Node
import FontCompiler.Json.Value

/-!
# Graphs in JSON notation

An object is a dictionary, unless it has the key `$stream`: then it is a stream
whose dictionary stands under that key and whose payload is given by the bytes
under `$data` or by the file named under `$file`.  A text that begins with a
slash is a name.  An integer of sixty-four bits with a sign is an integer, and
any other number is rounded to single precision.

The dictionary of a stream is lowered before its payload is looked at, and keys
that do not belong to the notation are looked for last.  Taking a key out of an
object moves the last entry into the gap, so the key that is reported need not
be the first one of the document.
-/

namespace FontCompiler.Manifest

open FontCompiler.Graph Json

/-- The key of a stream's dictionary. -/
def streamKey : String := "$stream"

/-- The key of a payload in bytes. -/
def dataKey : String := "$data"

/-- The key of a payload in a file. -/
def fileKey : String := "$file"

/-- What is wrong at a place of a graph. -/
inductive Violation
  | streamNotObject
  | fileNotPath
  | payloadTwice
  | unexpectedKey (key : String)
  | payloadNotArray
  | notByte (value : Value)

/-- The wording of a violation. -/
def Violation.message : Violation → String
  | .streamNotObject => "`$stream` must be an object"
  | .fileNotPath => "`$file` must be a path"
  | .payloadTwice => "`$data` and `$file` are exclusive"
  | .unexpectedKey key => "unexpected key `" ++ key ++ "` next to `$stream`"
  | .payloadNotArray => "expected an array of bytes"
  | .notByte value => value.text ++ " is not a byte"

/-- The segments that lead from the root of a manifest to a place in it. -/
abbrev Pointer := List String

/-- One character of a segment as it stands in the text of a pointer. -/
def escapePointerChar (char : Char) : List Char :=
  if char = '~' then ['~', '0'] else if char = '/' then ['~', '1'] else [char]

/-- The text of a pointer: a slash in front of every segment. -/
def pointerText (pointer : Pointer) : String :=
  String.join (pointer.map fun segment =>
    "/" ++ String.ofList (segment.toList.flatMap escapePointerChar))

/-- Why a graph cannot be lowered. -/
inductive LoweringFault
  | violation (pointer : Pointer) (violation : Violation)
  | unreadable (path : String) (failure : Files.Failure)

/-- A number as a node. -/
def lowerNumber : Number → Node
  | .int value =>
    if Int64.minValue.toInt ≤ value ∧ value ≤ Int64.maxValue.toInt then
      .integer (Int64.ofInt value)
    else .float (.ofBinary64 (.ofInt value))
  | .float value => .float (.ofBinary64 value)

/-- A text as a node. -/
def lowerText (text : String) : Node :=
  match text.toList with
  | '/' :: name => .name (String.ofList name)
  | _ => .string text

/-- A value as a byte. -/
def byte? : Value → Option UInt8
  | .number (.int value) =>
    if 0 ≤ value ∧ value < 256 then some (UInt8.ofNat value.toNat) else none
  | _ => none

/-- The items of a payload as bytes, from an index on. -/
def lowerBytes (pointer : Pointer) : (index : Nat) → List Value →
    Except LoweringFault (List UInt8)
  | _, [] => .ok []
  | index, item :: items =>
    match byte? item with
    | none =>
      .error (.violation (pointer ++ [Numeric.decimalDigits index]) (.notByte item))
    | some byte => do
      let bytes ← lowerBytes pointer (index + 1) items
      return byte :: bytes

/-- Reads a file within a computation. -/
abbrev Reader (m : Type → Type) := String → m (Except Files.Failure (List UInt8))

section

variable {m : Type → Type} [Monad m] (read : Reader m) (base : String)

/-- The payload of a stream whose dictionary has been taken out of its object. -/
def lowerPayload (pointer : Pointer) (entries : List (String × Value)) :
    ExceptT LoweringFault m (List UInt8) := do
  let data := Ordered.get? dataKey entries
  let entries := Ordered.swapErase dataKey entries
  let file := Ordered.get? fileKey entries
  let entries := Ordered.swapErase fileKey entries
  let bytes ←
    match data, file with
    | some (.array items), none => liftExcept (lowerBytes (pointer ++ [dataKey]) 0 items)
    | some _, none => throw (.violation (pointer ++ [dataKey]) .payloadNotArray)
    | none, some (.string name) =>
      let path := Files.join base name
      match ← liftM (read path) with
      | .ok bytes => pure bytes
      | .error failure => throw (.unreadable path failure)
    | none, some _ => throw (.violation pointer .fileNotPath)
    | none, none => pure []
    | some _, some _ => throw (.violation pointer .payloadTwice)
  match entries with
  | [] => return bytes
  | (key, _) :: _ => throw (.violation pointer (.unexpectedKey key))
where
  /-- Takes over the outcome of a computation without effects. -/
  liftExcept {α : Type} : Except LoweringFault α → ExceptT LoweringFault m α
    | .ok value => pure value
    | .error fault => throw fault

mutual

/-- A value as a node. -/
def lowerValue (pointer : Pointer) : Value → ExceptT LoweringFault m Node
  | .null => return .null
  | .bool value => return .boolean value
  | .number value => return lowerNumber value
  | .string text => return lowerText text
  | .array items => do return .array (← lowerItems pointer 0 items)
  | .object entries => do
    if Ordered.contains streamKey entries then
      let dictionary ← lowerStreamEntries pointer entries
      let payload ← lowerPayload read base pointer (Ordered.swapErase streamKey entries)
      return .stream dictionary payload
    else return .dictionary (← lowerEntries pointer entries)

/-- The items of an array, from an index on. -/
def lowerItems (pointer : Pointer) : (index : Nat) → List Value →
    ExceptT LoweringFault m (List Node)
  | _, [] => return []
  | index, item :: items => do
    let node ← lowerValue (pointer ++ [Numeric.decimalDigits index]) item
    let nodes ← lowerItems pointer (index + 1) items
    return node :: nodes

/-- The entries of a dictionary. -/
def lowerEntries (pointer : Pointer) : List (String × Value) →
    ExceptT LoweringFault m Dictionary
  | [] => return []
  | (key, value) :: entries => do
    let node ← lowerValue (pointer ++ [key]) value
    let nodes ← lowerEntries pointer entries
    return (key, node) :: nodes

/-- The dictionary of a stream, among the entries of its object. -/
def lowerStreamEntries (pointer : Pointer) : List (String × Value) →
    ExceptT LoweringFault m Dictionary
  | [] => throw (.violation pointer .streamNotObject)
  | (key, .object dictionary) :: entries =>
    if key = streamKey then lowerEntries (pointer ++ [streamKey]) dictionary
    else lowerStreamEntries pointer entries
  | (key, _) :: entries =>
    if key = streamKey then throw (.violation pointer .streamNotObject)
    else lowerStreamEntries pointer entries

end

end

end FontCompiler.Manifest
