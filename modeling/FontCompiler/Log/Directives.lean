import FontCompiler.Log
import FontCompiler.Regex.Resolution
import FontCompiler.Text.Blank

/-!
# Log directives

Which records are shown is said by a text: directives with commas between them,
each the name of a level or the path of a part of the program with a level.  A
record is shown if the directive with the longest matching path admits it.
Behind a slash the text may give a regular expression that has to match somewhere
in every message.  A part of the text that cannot be read is left out.
-/

namespace FontCompiler.Log

/-- The path of a part of the program. -/
def Topic.path : Topic → String
  | .factory => "cos_codegen::emitter"
  | .encoder => "cos_codegen::range_table"
  | .subset => "cos_codegen::subsetter"
  | .manifest => "cos_codegen::manifest"
  | .command => "cos_codegen::cli"

/-- The name of a level in a line, in five columns. -/
def Level.column : Level → String
  | .warn => "WARN "
  | .info => "INFO "
  | level => level.name

/-- The line of a record; further lines of its message are indented by four columns. -/
def Record.line (record : Record) : String :=
  "[" ++ record.level.column ++ " " ++ record.topic.path ++ "] " ++
    String.intercalate "\n    " (record.message.splitOn "\n")

/-- The level of records whose topic is in a part of the program, or of all records. -/
structure Directive where
  path : Option String
  threshold : Threshold
  deriving DecidableEq, Repr

/-- Directives, and what messages have to match. -/
structure Directives where
  list : List Directive
  filter : Option Regex.Expression
  deriving DecidableEq, Repr

/-- A part of a text that is left out of the directives. -/
inductive Fault
  | directive (text : String)
  /-- The text has several slashes, which leaves nothing of it. -/
  | slashes (text : String)
  | filter (pattern : String) (fault : Regex.Fault)
  deriving DecidableEq, Repr

namespace Fault

/-- What is wrong with a part of a text. -/
def message : Fault → String
  | .directive text => "invalid logging spec '" ++ text ++ "'"
  | .slashes text => "invalid logging spec '" ++ text ++ "' (too many '/'s)"
  | .filter pattern fault => "invalid regex filter - " ++ fault.report pattern

end Fault

/-- The threshold of a name. -/
def threshold? (name : String) : Option Threshold :=
  match String.ofList (name.toList.map Char.toLower) with
  | "off" => some none
  | "error" => some (some .error)
  | "warn" => some (some .warn)
  | "info" => some (some .info)
  | "debug" => some (some .debug)
  | "trace" => some (some .trace)
  | _ => none

/-- The threshold that keeps everything. -/
def everything : Threshold := some .trace

/-- A text without blanks around it. -/
def trim (text : String) : String :=
  String.ofList (Text.trimEnd (Text.trimStart text.toList))

namespace Directive

/-- The directive of a text, or the text that is no directive. -/
def ofText (text : String) : Except String Directive :=
  match text.splitOn "=" with
  | [single] =>
    match threshold? single with
    | some threshold => .ok ⟨none, threshold⟩
    | none => .ok ⟨some single, everything⟩
  | [path, level] =>
    let level := trim level
    if level = "" then .ok ⟨some path, everything⟩
    else
      match threshold? level with
      | some threshold => .ok ⟨some path, threshold⟩
      | none => .error level
  | _ => .error text

/-- Whether a directive is about a topic. -/
def concerns (directive : Directive) (topic : Topic) : Bool :=
  match directive.path with
  | none => true
  | some path => path.toList.isPrefixOf topic.path.toList

/-- The length of the path of a directive. -/
def reach (directive : Directive) : Nat :=
  (directive.path.map String.utf8ByteSize).getD 0

end Directive

namespace Directives

/-- Adds a directive in the place of one with the same path. -/
def insert (directive : Directive) : List Directive → List Directive
  | [] => [directive]
  | other :: others =>
    if other.path = directive.path then directive :: others else other :: insert directive others

/-- Reads directives one after the other; texts that are none are listed apart. -/
def readAll : List String → List Directive × List String
  | [] => ([], [])
  | text :: texts =>
    let trimmed := trim text
    let (others, faults) := readAll texts
    if trimmed = "" then (others, faults)
    else
      match Directive.ofText trimmed with
      | .ok directive => (directive :: others, faults)
      | .error fault => (others, fault :: faults)

/-- The directives of a text without a filter, and the parts of it that are left out. -/
def ofList (text : String) : Directives × List Fault :=
  let (directives, faults) := readAll (text.splitOn ",")
  (⟨directives.foldl (fun list directive => insert directive list) [], none⟩,
    faults.map .directive)

/-- The directives of a text, and the parts of it that are left out. -/
def ofText (text : String) : Directives × List Fault :=
  match text.splitOn "/" with
  | [list] => ofList list
  | [list, pattern] =>
    let (directives, faults) := ofList list
    match Regex.Expression.ofText pattern with
    | .ok filter => ({ directives with filter := some filter }, faults)
    | .error fault => (directives, faults ++ [.filter pattern fault])
  | _ => (⟨[], none⟩, [.slashes text])

/-- The directives with another threshold for all records that no path concerns. -/
def withDefault (directives : Directives) (threshold : Threshold) : Directives :=
  { directives with list := insert ⟨none, threshold⟩ directives.list }

/-- The directives in ascending order of reach; without any, only errors are shown. -/
def ordered (directives : Directives) : List Directive :=
  if directives.list.isEmpty then [⟨none, some .error⟩]
  else directives.list.mergeSort fun left right => left.reach ≤ right.reach

/-- Whether a record is shown. -/
def shows (directives : Directives) (record : Record) : Bool :=
  let threshold :=
    match directives.ordered.reverse.find? (·.concerns record.topic) with
    | some directive => directive.threshold
    | none => none
  admits threshold record.level &&
    directives.filter.all (·.matchesIn record.message)

end Directives

end FontCompiler.Log
