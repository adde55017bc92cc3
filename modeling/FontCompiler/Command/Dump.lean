import FontCompiler.Command.Invocation
import FontCompiler.Text.Quoted

/-!
# Dumps of invocations

The structure of an invocation as text, one value to a line, every level of
nesting indented by four columns.
-/

namespace FontCompiler.Command

/-- A value to be shown. -/
inductive Dump
  | plain (text : String)
  | record (name : String) (fields : List (String × Dump))
  | tagged (name : String) (content : Dump)
  | list (items : List Dump)

namespace Dump

/-- A text in quotes. -/
def text (text : String) : Dump :=
  .plain (Text.quoted text)

/-- A truth value. -/
def truth (truth : Bool) : Dump :=
  .plain (if truth then "true" else "false")

/-- A text that may be missing. -/
def optional : Option String → Dump
  | none => .plain "None"
  | some content => .tagged "Some" (.text content)

/-- The spaces in front of a line at some level of nesting. -/
def margin (level : Nat) : String :=
  String.ofList (List.replicate (4 * level) ' ')

mutual

/-- The text of a value whose last line stands at some level of nesting. -/
def render (level : Nat) : Dump → String
  | .plain text => text
  | .record name fields =>
    name ++ " \x7b\n" ++ renderFields (level + 1) fields ++ margin level ++ "\x7d"
  | .tagged name content =>
    name ++ "(\n" ++ margin (level + 1) ++ render (level + 1) content ++ ",\n" ++
      margin level ++ ")"
  | .list [] => "[]"
  | .list items => "[\n" ++ renderItems (level + 1) items ++ margin level ++ "]"

/-- The lines of fields. -/
def renderFields (level : Nat) : List (String × Dump) → String
  | [] => ""
  | (name, value) :: fields =>
    margin level ++ name ++ ": " ++ render level value ++ ",\n" ++ renderFields level fields

/-- The lines of the items of a list. -/
def renderItems (level : Nat) : List Dump → String
  | [] => ""
  | item :: items => margin level ++ render level item ++ ",\n" ++ renderItems level items

end

/-- What is shown of the sources of manifests. -/
def ofSources (sources : Sources) : Dump :=
  .record "InputSettings"
    [("jq_expr", .optional sources.filter), ("input", .list (sources.patterns.map .text))]

/-- What is shown of a task. -/
def ofTask : Task → Dump
  | .generate generation =>
    .tagged "Generate" (.record "GenerateOut"
      [("input_settings", ofSources generation.sources), ("out", .optional generation.output),
        ("sidecar_dir", .optional generation.sidecars), ("no_op", .truth generation.dryRun)])
  | .probe probing =>
    .tagged "Probe" (.record "ProbeOut"
      [("input_settings", ofSources probing.sources), ("text", .text probing.text)])

/-- What is shown of an invocation. -/
def ofInvocation (invocation : Invocation) : Dump :=
  .record "CommandLineInterface"
    [("verbose", .truth invocation.verbose), ("cmd", ofTask invocation.task)]

end Dump

/-- The text of an invocation. -/
def Invocation.dump (invocation : Invocation) : String :=
  (Dump.ofInvocation invocation).render 0

end FontCompiler.Command
