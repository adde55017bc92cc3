import FontCompiler.Command.Invocation
import FontCompiler.Command.Session

/-!
# Manifests of a command

Patterns are expanded first, each of them to at least one path.  Then the files
are read in order, and each gives one manifest, or, with a query filter, one
for every output of the filter.  Like the file system, what runs the filters is
given from outside.
-/

namespace FontCompiler.Command

open Manifest

variable {m : Type → Type} [Monad m] (system : Files.System m) (runner : Query.Runner)

/-- The paths that a text stands for. -/
def expandPattern (text : String) : Session m (List String) := do
  if !Files.Pattern.looksLike text then return [text]
  match Files.Pattern.ofText text with
  | .error fault => throw (.pattern fault)
  | .ok pattern =>
    match ← Session.perform (pattern.expand system) with
    | .error (path, cause) => throw (.searchDirectory path cause)
    | .ok [] => throw (.unmatchedPattern text)
    | .ok paths => return paths

/-- The paths that several texts stand for. -/
def expandPatterns : List String → Session m (List String)
  | [] => return []
  | text :: texts => do
    let paths ← expandPattern system text
    return paths ++ (← expandPatterns texts)

/-- Goes on with a font that was loaded. -/
def loaded (explain : LoadFault → Failure) (result : Except LoadFault ManifestFont) :
    Session m ManifestFont := do
  match result with
  | .error fault => throw (explain fault)
  | .ok font =>
    Session.log [font.loadedRecord]
    return font

/-- The fonts of the documents of a file, the first of which has a given number. -/
def loadDocuments (path : String) : (index : Nat) → List Json.Value →
    Session m (List ManifestFont)
  | _, [] => return []
  | index, document :: documents => do
    let result ← Session.perform
      (ManifestFont.ofValue system.readBytes (Files.directoryOf path) document)
    let font ← loaded (.loadDocument index path) result
    return font :: (← loadDocuments path (index + 1) documents)

/-- The fonts of a file that is put through a filter. -/
def loadFiltered (filter path : String) : Session m (List ManifestFont) := do
  let text ← Session.require (.readSource path) (system.readText path)
  match Json.Value.ofText text with
  | .error fault => throw (.parseSource path fault)
  | .ok document =>
    match runner filter document with
    | .error fault => throw (.filterSource path fault)
    | .ok documents => loadDocuments system path 0 documents

/-- The fonts of a file. -/
def loadPath (filter : Option String) (path : String) : Session m (List ManifestFont) := do
  match filter with
  | some filter => loadFiltered system runner filter path
  | none =>
    let font ← loaded (.loadManifest path) (← Session.perform (ManifestFont.load system path))
    return [font]

/-- The fonts of several files. -/
def loadPaths (filter : Option String) : List String → Session m (List ManifestFont)
  | [] => return []
  | path :: paths => do
    let fonts ← loadPath system runner filter path
    return fonts ++ (← loadPaths filter paths)

/-- The fonts that a command works on. -/
def Sources.load (sources : Sources) : Session m (List ManifestFont) := do
  loadPaths system runner sources.filter (← expandPatterns system sources.patterns)

end FontCompiler.Command
