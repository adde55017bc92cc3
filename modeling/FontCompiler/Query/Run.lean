import FontCompiler.Json.Reading
import FontCompiler.Query.Evaluation
import FontCompiler.Query.Scope

/-!
# Running filters on documents

A filter is given as a text.  Run on a document, every output is written as
text and read back as a document, so what cannot be read back is no output of a
run.  The first interrupt and the first unreadable output end a run without any
documents.

Commands leave open what runs their filters, since the builtin filters are not
all there are.  The program has them run by `run`.
-/

namespace FontCompiler.Query

/-- Why a run has no documents. -/
inductive Fault
  | malformed (source : String)
  | undefined (source : String) (names : List Undefined)
  | interrupted (cause : Interrupt)
  | unreadable (source : String) (fault : Json.SyntaxFault)

/-- The wording of an interrupt. -/
def Interrupt.message : Interrupt → String
  | .failure cause => cause.plainText
  | .leave _ => "the label of a jump is not set"
  | .exhausted => "filters are nested too deep"

/-- The wording of a fault, without its cause. -/
def Fault.message : Fault → String
  | .malformed source => "parse error in `" ++ source ++ "`"
  | .undefined source names => String.join (names.map (Undefined.message source))
  | .interrupted cause => cause.message
  | .unreadable source _ => "jq filter `" ++ source ++ "` produced non-JSON output"

/-- How deep terms may be nested while a filter is evaluated, each call counting as a term
inside the one that makes it. -/
def depthLimit : Nat := 0x10000000000

/-- The document that a value is written as. -/
def document (source : String) (value : Value) : Except Fault Json.Value :=
  match Json.Value.ofText value.text with
  | .ok document => .ok document
  | .error fault => .error (.unreadable source fault)

/-- The documents of given outputs, behind those that are given in reverse order. -/
def documentsFrom (source : String) (read : List Json.Value) :
    Results → Except Fault (List Json.Value)
  | .done => .ok read.reverse
  | .one (.error cause) => .error (.interrupted cause)
  | .one (.ok value) => do return ((← document source value) :: read).reverse
  | .next (.error cause) _ => .error (.interrupted cause)
  | .next (.ok value) rest =>
    match document source value with
    | .ok document => documentsFrom source (document :: read) (rest ())
    | .error fault => .error fault
  | .later row => documentsFrom source read (row ())

/-- Something that runs filters: it gives the documents that a filter makes of a document, or tells
why there are none. -/
abbrev Runner := String → Json.Value → Except Fault (List Json.Value)

/-- Evaluates filters, nested up to the limit. -/
def evaluator : Evaluator :=
  .ofDepth depthLimit

/-- The documents that a filter makes of a document. -/
def run (source : String) (input : Json.Value) : Except Fault (List Json.Value) :=
  match Term.ofSource? source with
  | none => .error (.malformed source)
  | some term =>
    match Scope.top.undefined term with
    | [] => documentsFrom source [] (evaluator.run term Prelude.environment (.ofJson input))
    | names => .error (.undefined source names)

end FontCompiler.Query
