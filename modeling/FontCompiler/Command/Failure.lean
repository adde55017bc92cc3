import FontCompiler.Files.Pattern
import FontCompiler.Manifest.Font
import FontCompiler.Query.Run
import FontCompiler.Subset

/-!
# Failures of commands

Why a command stops.  A failure is told as a chain of messages, from what was
attempted down to its cause.
-/

namespace FontCompiler.Command

/-- Why a command stops. -/
inductive Failure
  | createDirectory (path : String) (cause : Files.Failure)
  | pattern (fault : Files.PatternFault)
  | searchDirectory (path : String) (cause : Files.Failure)
  | unmatchedPattern (text : String)
  | loadManifest (path : String) (cause : Manifest.LoadFault)
  | readSource (path : String) (cause : Files.Failure)
  | parseSource (path : String) (fault : Json.SyntaxFault)
  | filterSource (path : String) (fault : Query.Fault)
  | loadDocument (index : Nat) (path : String) (cause : Manifest.LoadFault)
  | addRange (label : String) (fault : RequestFault)
  | compileFont (label : String) (fault : CompileFault)
  | writeSidecar (name : String) (cause : Files.Failure)
  | createOutputDirectory (cause : Files.Failure)
  | writeOutput (path : String) (cause : Files.Failure)
  | noManifest
  | severalManifests (labels : List String)
  | encodeText (unmapped : Encoder.UnmappedUnit)

/-- The messages of a fault of loading; an unreadable file names its cause once more. -/
def loadFaultChain (fault : Manifest.LoadFault) : List String :=
  match fault with
  | .unreadable _ failure => [fault.message, failure.message]
  | _ => [fault.message]

namespace Failure

/-- The messages of a failure, its cause last. -/
def chain : Failure → List String
  | .createDirectory path cause => ["failed to create " ++ path, cause.message]
  | .pattern fault => [fault.message]
  | .searchDirectory path cause =>
    ["attempting to read `" ++ path ++ "` resulted in an error: " ++ cause.message,
      cause.message]
  | .unmatchedPattern text => ["glob pattern matched no files: " ++ text]
  | .loadManifest path cause => ("failed to load manifest " ++ path) :: loadFaultChain cause
  | .readSource path cause => ["failed to read " ++ path, cause.message]
  | .parseSource path fault =>
    ["failed to parse JSON source file (" ++ path ++ ")", fault.message]
  | .filterSource path fault =>
    ["failed to apply jq expression to source file (" ++ path ++ ")", fault.message]
  | .loadDocument index path cause =>
    ("failed to load manifest #" ++ Numeric.decimalDigits index ++ " of " ++ path) ::
      loadFaultChain cause
  | .addRange label fault => ["font " ++ label, fault.message]
  | .compileFont label fault => ["failed to compile font " ++ label, fault.message]
  | .writeSidecar name cause => ["failed to write sidecar " ++ name, cause.message]
  | .createOutputDirectory cause => [cause.message]
  | .writeOutput path cause => ["failed to write " ++ path, cause.message]
  | .noManifest => ["no manifest to probe"]
  | .severalManifests labels =>
    ["probe needs exactly one manifest, the inputs resolve to " ++
      Numeric.decimalDigits labels.length ++ ": " ++ String.intercalate ", " labels]
  | .encodeText unmapped => [unmapped.message]

/-- The wording of a failure. -/
def message (failure : Failure) : String :=
  String.intercalate ": " failure.chain

end Failure

end FontCompiler.Command
