import FontCompiler.Command.Dump
import FontCompiler.Command.Sources

/-!
# Running commands

Compilation works font by font: a font gets the ranges that its manifest names,
is compiled, and has its sidecars written.  The source text of all fonts is
written at the very end, so a command that stops on the way writes none.
-/

namespace FontCompiler.Command

open Manifest

/-- Requests ranges of a font one after the other, up to the first fault. -/
def requestRanges (label : String) :
    List CharacterRange → Subset ManifestFont → Outcome (Subset ManifestFont)
  | [], subset => ⟨[], .ok subset⟩
  | range :: ranges, subset =>
    let request := subset.request range.first range.last
    match request.fault with
    | some fault => ⟨request.records, .error (.addRange label fault)⟩
    | none =>
      let others := requestRanges label ranges request.subset
      ⟨request.records ++ others.records, others.result⟩

/-- The subset of a font that its manifest asks for. -/
def subsetOf (font : ManifestFont) : Outcome (Subset ManifestFont) :=
  requestRanges font.label font.ranges (.ofFont font)

/-- The generated code of a font. -/
def compileFont (font : ManifestFont) : Outcome CompiledFont :=
  let requested := subsetOf font
  match requested.result with
  | .error failure => ⟨requested.records, .error failure⟩
  | .ok subset =>
    let compilation := subset.compile font.label
    ⟨requested.records ++ compilation.records,
      match compilation.result with
      | .ok compiled => .ok compiled
      | .error fault => .error (.compileFont font.label fault)⟩

/-- The record of a written sidecar. -/
def writtenRecord (path : String) (size : Nat) : Log.Record :=
  ⟨.info, .command, "wrote " ++ Numeric.decimalDigits size ++ " bytes to " ++ path⟩

section

variable {m : Type → Type} [Monad m] (system : Files.System m) (runner : Query.Runner)

/-- Writes sidecars into a directory. -/
def writeSidecars (directory : String) : List Factory.Sidecar → Session m Unit
  | [] => return ()
  | sidecar :: sidecars => do
    let path := Files.join directory sidecar.name
    Session.require (.writeSidecar sidecar.name) (system.writeBytes path sidecar.bytes)
    Session.log [writtenRecord path sidecar.bytes.length]
    writeSidecars directory sidecars

/-- Compiles fonts, writes their sidecars, and gives their source text. -/
def compileFonts (directory : String) : List ManifestFont → Session m String
  | [] => return ""
  | font :: fonts => do
    let compiled ← Session.settle (compileFont font)
    writeSidecars system directory compiled.sidecars
    Session.line ("compiled " ++ font.label ++ " (" ++
      Numeric.decimalDigits compiled.sidecars.length ++ " sidecar files)")
    return compiled.source ++ (← compileFonts directory fonts)

/-- Writes a source text to a file, or else to the standard output. -/
def deliver (output : Option String) (source : String) : Session m Unit := do
  match output with
  | none => Session.print source
  | some path =>
    match Files.parent? path with
    | none => pure ()
    | some parent => Session.require .createOutputDirectory (system.ensureDirectory parent)
    Session.require (.writeOutput path) (system.writeBytes path (Files.encodeUtf8 source))

/-- The directory of the sidecars; the empty text stands for the working directory. -/
def Generation.sidecarDirectory (generation : Generation) : String :=
  match generation.sidecars with
  | some directory => directory
  | none => (generation.output.bind Files.parent?).getD ""

/-- Makes the directory of the sidecars, unless it is the working directory. -/
def Generation.prepare (generation : Generation) : Session m Unit := do
  let directory := generation.sidecarDirectory
  if directory ≠ "" then
    Session.require (.createDirectory directory) (system.ensureDirectory directory)

/-- The fonts to be compiled, once there is a directory for their sidecars. -/
def Generation.load (generation : Generation) : Session m (List ManifestFont) := do
  generation.prepare system
  generation.sources.load system runner

/-- Compiles manifests into one source text. -/
def Generation.run (generation : Generation) : Session m Unit := do
  let fonts ← generation.load system runner
  let source ← compileFonts system generation.sidecarDirectory fonts
  deliver system generation.output source

/-- The only one of several fonts. -/
def soleFont (fonts : List ManifestFont) : Except Failure ManifestFont :=
  match fonts with
  | [] => .error .noManifest
  | [font] => .ok font
  | fonts => .error (.severalManifests (fonts.map (·.label)))

/-- Bytes with spaces between them, for reading. -/
def bytesText (bytes : List UInt8) : String :=
  String.intercalate " " (bytes.map fun byte => Text.upperHex 2 byte.toNat)

/-- Encodes a text with the ranges of a single manifest. -/
def Probing.run (probing : Probing) : Session m Unit := do
  let font ← soleFont (← probing.sources.load system runner)
  let subset ← Session.settle (subsetOf font)
  match Encoder.encodeText font.label subset.ranges probing.text with
  | .error unmapped => throw (.encodeText unmapped)
  | .ok bytes => Session.print (bytesText bytes ++ "\n")

/-- Does what an invocation asks for. -/
def Invocation.perform (invocation : Invocation) : Session m Unit := do
  match invocation.task with
  | .generate generation =>
    if generation.dryRun then Session.line invocation.dump else generation.run system runner
  | .probe probing => probing.run system runner

/-- How a command ended: what it reported, and why it stopped if it did. -/
structure Report where
  transcript : Transcript
  failure : Option Failure

/-- Runs a command to its end. -/
def Invocation.runWith (invocation : Invocation) : m Report := do
  let (result, transcript) ← (invocation.perform system runner).run.run .empty
  return ⟨transcript,
    match result with
    | .ok () => none
    | .error failure => some failure⟩

/-- Runs a command to its end with the filters of this library. -/
def Invocation.run (invocation : Invocation) : m Report :=
  invocation.runWith system Query.run

end

end FontCompiler.Command
