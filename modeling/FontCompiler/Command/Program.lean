import FontCompiler.Command.Run
import FontCompiler.Command.Usage
import FontCompiler.Log.Directives

/-!
# The program

The whole program as a computation on a file system: it reads its command line,
decides which log records are shown, runs the command, and ends with an exit
code.  Warnings and worse are shown by default, and a verbose command shows all
but the finest records whatever the directives say.
-/

namespace FontCompiler.Command

/-- How the program ended. -/
structure Exit where
  code : Nat
  output : String
  /-- The text for the terminal in front of the failure. -/
  messages : String
  failure : Option Failure

namespace Exit

/-- The text for the terminal, the failure last. -/
def terminal (exit : Exit) : String :=
  exit.messages ++
    match exit.failure with
    | none => ""
    | some failure => "error: " ++ failure.message ++ "\n"

end Exit

/-- The directives in force, and the lines that warn of those that cannot be read. -/
def directives (verbose : Bool) (setting : Option String) : Log.Directives × String :=
  let (read, faults) := Log.Directives.ofText (setting.getD "warn")
  (if verbose then read.withDefault (some .debug) else read,
    String.join (faults.map fun fault => "warning: " ++ fault.message ++ ", ignoring it\n"))

/-- The text of an event under given directives. -/
def Event.text (directives : Log.Directives) : Event → String
  | .record entry => if directives.shows entry then entry.line ++ "\n" else ""
  | .line content => content ++ "\n"

/-- Runs the program. -/
def runProgram {m : Type → Type} [Monad m] (system : Files.System m) (words : List String)
    (setting : Option String) : m (Except UsageFault Exit) := do
  match Invocation.ofWords words with
  | .error fault => return .error fault
  | .ok invocation =>
    let (shown, warnings) := directives invocation.verbose setting
    let report ← invocation.run system
    return .ok ⟨if report.failure.isSome then 1 else 0, report.transcript.output,
      warnings ++ String.join (report.transcript.events.map (Event.text shown)),
      report.failure⟩

end FontCompiler.Command
