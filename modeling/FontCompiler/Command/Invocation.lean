/-!
# Invocations

What the words of a command line ask for.  There are two commands: one compiles
manifests into a source text, the other encodes a text with the ranges of one
manifest.  Both name their manifests by paths or patterns, and may put every
document through a query filter whose outputs are the manifests then.
-/

namespace FontCompiler.Command

/-- Where manifests come from. -/
structure Sources where
  filter : Option String
  patterns : List String
  deriving DecidableEq, Repr

/-- The compilation of manifests into one source text. -/
structure Generation where
  sources : Sources
  /-- The file of the source text, instead of the standard output. -/
  output : Option String
  /-- The directory of sidecars, instead of that of the source text. -/
  sidecars : Option String
  /-- Whether only the invocation itself is shown. -/
  dryRun : Bool
  deriving DecidableEq, Repr

/-- The encoding of a text. -/
structure Probing where
  sources : Sources
  text : String
  deriving DecidableEq, Repr

/-- What is to be done. -/
inductive Task
  | generate (generation : Generation)
  | probe (probing : Probing)
  deriving DecidableEq, Repr

/-- A task, and whether its progress is logged. -/
structure Invocation where
  verbose : Bool
  task : Task
  deriving DecidableEq, Repr

end FontCompiler.Command
