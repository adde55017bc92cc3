import FontCompiler.Command.Failure

/-!
# Sessions

A command reports what it does while it runs: log records and lines for the
terminal, in the order in which they arise, and the text of its standard
output.  What was reported stays when the command stops with a failure.
-/

namespace FontCompiler.Command

/-- Something that a command reports. -/
inductive Event
  | record (record : Log.Record)
  | line (text : String)
  deriving DecidableEq, Repr

/-- What a command has reported so far. -/
structure Transcript where
  events : List Event
  output : String
  deriving DecidableEq, Repr

namespace Transcript

/-- Nothing is reported. -/
def empty : Transcript := ⟨[], ""⟩

/-- The log records. -/
def records (transcript : Transcript) : List Log.Record :=
  transcript.events.filterMap fun
    | .record record => some record
    | .line _ => none

/-- The text of the lines for the terminal. -/
def lines (transcript : Transcript) : String :=
  String.join (transcript.events.map fun
    | .record _ => ""
    | .line text => text ++ "\n")

end Transcript

/-- A computation that reports and may fail, on top of a file system. -/
abbrev Session (m : Type → Type) := ExceptT Failure (StateT Transcript m)

/-- A result that is computed without a file system, and the records on the way to it. -/
structure Outcome (α : Type) where
  records : List Log.Record
  result : Except Failure α

namespace Session

variable {m : Type → Type} [Monad m] {α : Type}

/-- Reports log records. -/
def log (records : List Log.Record) : Session m Unit :=
  modify fun transcript =>
    { transcript with events := transcript.events ++ records.map .record }

/-- Reports a line for the terminal. -/
def line (text : String) : Session m Unit :=
  modify fun transcript => { transcript with events := transcript.events ++ [.line text] }

/-- Writes to the standard output. -/
def print (text : String) : Session m Unit :=
  modify fun transcript => { transcript with output := transcript.output ++ text }

/-- Runs an operation of the file system. -/
def perform (operation : m α) : Session m α :=
  ExceptT.lift (StateT.lift operation)

/-- Runs an operation of the file system whose failure stops the session. -/
def require (explain : Files.Failure → Failure) (operation : m (Except Files.Failure α)) :
    Session m α := do
  match ← perform operation with
  | .ok value => return value
  | .error cause => throw (explain cause)

/-- Reports the records of an outcome and goes on with its result. -/
def settle (outcome : Outcome α) : Session m α := do
  log outcome.records
  match outcome.result with
  | .ok value => return value
  | .error failure => throw failure

end Session

end FontCompiler.Command
