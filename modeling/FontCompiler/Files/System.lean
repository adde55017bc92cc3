import FontCompiler.Files.Path

/-!
# File systems

What the compiler needs of a file system, as operations in some monad, the ways
in which they fail, and what is built from them: the creation of a directory
with all directories above it, and the reading of a text.
-/

namespace FontCompiler.Files

/-- Why a file operation fails. -/
inductive Failure
  | notFound
  | exists
  | notDirectory
  | isDirectory
  | nameTooLong
  | nulInName
  | notUtf8
  | other (message : String)
  deriving DecidableEq, Repr

/-- The wording of a failure, with the number of the operating system. -/
def Failure.message : Failure → String
  | .notFound => "No such file or directory (os error 2)"
  | .exists => "File exists (os error 17)"
  | .notDirectory => "Not a directory (os error 20)"
  | .isDirectory => "Is a directory (os error 21)"
  | .nameTooLong => "File name too long (os error 36)"
  | .nulInName => "file name contained an unexpected NUL byte"
  | .notUtf8 => "stream did not contain valid UTF-8"
  | .other message => message

/-- The operations of a file system. -/
structure System (m : Type → Type) where
  readBytes : String → m (Except Failure (List UInt8))
  writeBytes : String → List UInt8 → m (Except Failure Unit)
  makeDirectory : String → m (Except Failure Unit)
  /-- Whether a path leads to something, and whether that is a directory. -/
  status : String → m (Option Bool)
  /-- The names in a directory, in any order. -/
  listDirectory : String → m (Except Failure (List String))

/-- The text of given bytes, if they are valid. -/
def decodeUtf8? (bytes : List UInt8) : Option String :=
  String.fromUTF8? (ByteArray.mk bytes.toArray)

/-- The bytes of a text. -/
def encodeUtf8 (text : String) : List UInt8 :=
  text.toUTF8.toList

namespace System

variable {m : Type → Type} [Monad m]

/-- Reads a file as text. -/
def readText (system : System m) (path : String) : m (Except Failure String) := do
  match ← system.readBytes path with
  | .error failure => return .error failure
  | .ok bytes =>
    match decodeUtf8? bytes with
    | some text => return .ok text
    | none => return .error .notUtf8

/-- Makes a directory unless it is there, and sees to the directories above it first if
they are missing; `fuel` bounds their number. -/
def makeDirectories (system : System m) : (fuel : Nat) → String → m (Except Failure Unit)
  | 0, _ => return .ok ()
  | fuel + 1, path => do
    match parent? path with
    | none => return .ok ()
    | some parent =>
      match ← system.makeDirectory path with
      | .ok () => return .ok ()
      | .error .notFound =>
        match ← system.makeDirectories fuel parent with
        | .error failure => return .error failure
        | .ok () => settle path (← system.makeDirectory path)
      | outcome => settle path outcome
where
  /-- A directory that exists already is as good as a new one. -/
  settle (path : String) : Except Failure Unit → m (Except Failure Unit)
    | .ok () => return .ok ()
    | .error failure => do
      match ← system.status path with
      | some true => return .ok ()
      | _ => return .error failure

/-- Makes a directory and all directories above it that are missing. -/
def ensureDirectory (system : System m) (path : String) : m (Except Failure Unit) :=
  system.makeDirectories (path.length + 1) path

end System

end FontCompiler.Files
