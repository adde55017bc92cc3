import FontCompiler.Files.System
import FontCompiler.Ordered

/-!
# File stores

A file system as a value: the entries below the working directory, below the
directories above it, and below the root, each under its place.  The working
directory, those above it and the root are always there.

Paths are resolved segment by segment, and every segment but the last has to
lead to a directory.

Where the working directory lies below the root is left open.  So a place below
the one is never a place below the other, and what is said of the places of a
store is said of files with one spelling each, be it absolute or relative: that
on a machine both kinds of paths can name one file is not part of the model.
-/

namespace FontCompiler.Files

/-- Where names start: a number of directories above the working directory, or the root. -/
inductive Origin
  | above (levels : Nat)
  | root
  deriving DecidableEq, Repr

/-- A place for an entry: the names that lead to it from an origin. -/
structure Place where
  origin : Origin
  names : List String
  deriving DecidableEq, Repr

/-- What is at a place. -/
inductive Entry
  | file (bytes : List UInt8)
  | directory
  deriving DecidableEq, Repr

/-- The entries of a file system. -/
structure Store where
  entries : List (Place × Entry)
  deriving DecidableEq, Repr

namespace Place

/-- The place of a name in a directory. -/
def child (place : Place) (name : String) : Place :=
  { place with names := place.names ++ [name] }

/-- The place of the directory around a place; the root is its own. -/
def up (place : Place) : Place :=
  match place.names, place.origin with
  | [], .above levels => ⟨.above (levels + 1), []⟩
  | [], .root => place
  | names, _ => { place with names := names.dropLast }

/-- Where the resolution of a path starts. -/
def start (path : String) : Place :=
  ⟨if isAbsolute path then .root else .above 0, []⟩

end Place

namespace Store

/-- A file system without entries. -/
def empty : Store := ⟨[]⟩

/-- What is at a place. -/
def entry? (store : Store) (place : Place) : Option Entry :=
  if place.names.isEmpty then some .directory else Ordered.get? place store.entries

/-- Puts an entry at a place. -/
def put (store : Store) (place : Place) (entry : Entry) : Store :=
  ⟨Ordered.insert place entry store.entries⟩

/-- The longest name, in bytes. -/
def nameLimit : Nat := 255

/-- The longest path, in bytes. -/
def pathLimit : Nat := 4095

/-- Refuses paths that no operation accepts. -/
def checkPath (path : String) : Except Failure Unit :=
  if path.toList.any (·.toNat == 0) then .error .nulInName
  else if path = "" then .error .notFound
  else if pathLimit < path.utf8ByteSize then .error .nameTooLong
  else .ok ()

/-- Follows one segment of a path. -/
def step (store : Store) (place : Place) (segment : String) : Except Failure Place :=
  match store.entry? place with
  | none => .error .notFound
  | some (.file _) => .error .notDirectory
  | some .directory =>
    if segment = "" ∨ segment = "." then .ok place
    else if segment = ".." then .ok place.up
    else if nameLimit < segment.utf8ByteSize then .error .nameTooLong
    else .ok (place.child segment)

/-- Follows segments from a place on; the last one may lead to nothing. -/
def walk (store : Store) : Place → List String → Except Failure Place
  | place, [] => .ok place
  | place, segment :: segments => do
    let place ← store.step place segment
    store.walk place segments

/-- The entry that a path leads to, and its place. -/
def resolve (store : Store) (path : String) : Except Failure (Place × Entry) := do
  checkPath path
  let place ← store.walk (Place.start path) (segments path)
  match store.entry? place with
  | some entry => return (place, entry)
  | none => .error .notFound

/-- The place that a path names, whether there is an entry or not, and whether the path
asks for a directory by ending in a slash. -/
def target (store : Store) (path : String) : Except Failure (Place × Bool) := do
  checkPath path
  let reversed := (segments path).reverse
  let named := (reversed.dropWhile (· == "")).reverse
  let place ← store.walk (Place.start path) named
  return (place, named.length < reversed.length)

/-- Reads a file. -/
def readBytes (store : Store) (path : String) : Except Failure (List UInt8) := do
  match ← store.resolve path with
  | (_, .file bytes) => return bytes
  | (_, .directory) => .error .isDirectory

/-- Creates or replaces a file. -/
def writeBytes (store : Store) (path : String) (bytes : List UInt8) : Except Failure Store := do
  let (place, slash) ← store.target path
  match store.entry? place, slash with
  | some .directory, _ => .error .isDirectory
  | none, true => .error .isDirectory
  | some (.file _), true => .error .notDirectory
  | _, false => return store.put place (.file bytes)

/-- Creates a directory where nothing is. -/
def makeDirectory (store : Store) (path : String) : Except Failure Store := do
  let (place, _) ← store.target path
  match store.entry? place with
  | some _ => .error .exists
  | none => return store.put place .directory

/-- Whether a path leads to something, and whether that is a directory. -/
def status (store : Store) (path : String) : Option Bool :=
  match store.resolve path with
  | .ok (_, .directory) => some true
  | .ok (_, .file _) => some false
  | .error _ => none

/-- The names in the directory at a place. -/
def namesIn (store : Store) (place : Place) : List String :=
  store.entries.filterMap fun (other, _) =>
    match other.names.getLast? with
    | some name => if other == place.child name then some name else none
    | none => none

/-- The names in a directory. -/
def listDirectory (store : Store) (path : String) : Except Failure (List String) := do
  match ← store.resolve path with
  | (place, .directory) => return store.namesIn place
  | (_, .file _) => .error .notDirectory

/-- The operations on a store that is threaded through a computation. -/
def system : System (StateM Store) where
  readBytes path := do return (← get).readBytes path
  writeBytes path bytes := modifyGet fun store =>
    match store.writeBytes path bytes with
    | .ok store => (.ok (), store)
    | .error failure => (.error failure, store)
  makeDirectory path := modifyGet fun store =>
    match store.makeDirectory path with
    | .ok store => (.ok (), store)
    | .error failure => (.error failure, store)
  status path := do return (← get).status path
  listDirectory path := do return (← get).listDirectory path

end Store

end FontCompiler.Files
