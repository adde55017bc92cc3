import FontCompiler.Command.Program

/-!
# Entry point

Runs the program on the file system of the machine.
-/

namespace FontCompiler

open Files

/-- The number that names an error of the machine. Some operations report it negated, and the
numbers are small, so the smaller of the two readings is the name. -/
def errorNumber (code : UInt32) : Nat := min code.toNat (0 - code).toNat

/-- The failure that a numbered error of the machine stands for. -/
def failureNumbered (code : UInt32) (message : String) : Failure :=
  match errorNumber code with
  | 20 => .notDirectory
  | 21 => .isDirectory
  | 36 => .nameTooLong
  | _ => .other message

/-- The failure behind an error of the machine. -/
def failureOf (error : IO.Error) : Failure :=
  match error with
  | .noFileOrDirectory .. => .notFound
  | .alreadyExists .. => .exists
  | .inappropriateType _ code _ | .resourceExhausted _ code _ | .invalidArgument _ code _ =>
    failureNumbered code error.toString
  | other => .other other.toString

/-- Runs an operation of the machine. -/
def attempt {α : Type} (operation : IO α) : IO (Except Failure α) := do
  match ← operation.toBaseIO with
  | .ok value => return .ok value
  | .error error => return .error (failureOf error)

/-- The file system of the machine. -/
def machine : System IO where
  readBytes path := attempt do return (← IO.FS.readBinFile path).toList
  writeBytes path bytes := attempt (IO.FS.writeBinFile path (ByteArray.mk bytes.toArray))
  makeDirectory path := attempt (IO.FS.createDir path)
  status path := do
    let here ← IO.currentDir
    match ← (here / path).metadata.toBaseIO with
    | .ok data => return some (data.type == .dir)
    | .error _ => return none
  listDirectory path := attempt do
    let here ← IO.currentDir
    return (← (here / path).readDir).toList.map (·.fileName)

/-- What is told to those who ask for help or cannot be helped otherwise. -/
def usage : String :=
  "Usage: generate [--jq-expr FILTER] -i PATH... [-o FILE] [--sidecar-dir DIR] [--no-op]\n" ++
  "       probe [--jq-expr FILTER] -i PATH... -t TEXT\n"

/-- Runs the program and tells the exit code. -/
def runMain (words : List String) : IO UInt32 := do
  match ← Command.runProgram machine words (← IO.getEnv "RUST_LOG") with
  | .error fault =>
    if fault.exitCode = 0 then IO.print usage else IO.eprint usage
    return fault.exitCode.toUInt32
  | .ok exit =>
    IO.print exit.output
    IO.eprint exit.terminal
    return exit.code.toUInt32

end FontCompiler

/-- The entry point of the program. -/
def main (words : List String) : IO UInt32 :=
  FontCompiler.runMain words
