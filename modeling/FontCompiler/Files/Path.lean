/-!
# Path texts

A path is a text whose segments stand between slashes.  Empty segments and dots
inside a path mean nothing; only a dot at the very beginning counts as a
component.  Joining and taking the parent work on the text and leave the
remaining part as it was written.
-/

namespace FontCompiler.Files

/-- The pieces of a text between the slashes; there is always one more than slashes. -/
def splitSlashes : List Char → List (List Char)
  | [] => [[]]
  | char :: chars =>
    match splitSlashes chars with
    | [] => [[char]]
    | piece :: pieces => if char = '/' then [] :: piece :: pieces else (char :: piece) :: pieces

/-- The segments of a path. -/
def segments (path : String) : List String :=
  (splitSlashes path.toList).map String.ofList

/-- The path with the given segments. -/
def ofSegments (segments : List String) : String :=
  String.intercalate "/" segments

/-- Whether a path starts at the root. -/
def isAbsolute (path : String) : Bool :=
  match path.toList with
  | '/' :: _ => true
  | _ => false

/-- Whether a segment, the first one or a later one, is a component of its path. -/
def isComponent (first : Bool) (segment : String) : Bool :=
  segment ≠ "" && (segment ≠ "." || first)

/-- Drops the segments from the end that are no components; the list is reversed. -/
def dropIdle : List String → List String
  | [] => []
  | [segment] => if isComponent true segment then [segment] else []
  | segment :: others => if isComponent false segment then segment :: others else dropIdle others

/-- The path without its last component; the root and the empty path have none. -/
def parent? (path : String) : Option String :=
  match dropIdle (segments path).reverse with
  | [] => none
  | _ :: others =>
    match dropIdle others with
    | [] => some (if isAbsolute path then "/" else "")
    | others => some (ofSegments others.reverse)

/-- The directory of a path, for resolving what is relative to it. -/
def directoryOf (path : String) : String :=
  (parent? path).getD "."

/-- A path relative to a directory; an absolute path stays as it is. -/
def join (directory path : String) : String :=
  if isAbsolute path then path
  else if directory = "" then path
  else if directory.toList.getLast? = some '/' then directory ++ path
  else directory ++ "/" ++ path

end FontCompiler.Files
