import FontCompiler.Query.Environment
import FontCompiler.Query.Parser

/-!
# The prelude

Filters that are defined in the query language itself, in terms of the builtin
ones and of each other.
-/

namespace FontCompiler.Query.Prelude

/-- The text of the prelude, line by line. -/
def lines : List String := [
  "def empty: [][] as $x | .;",
  "def nan: 0 / 0;",
  "def infinite: 1 / 0;",
  "def isnan: type == \"number\" and . < .;",
  "def isinfinite: . == infinite or . == -infinite;",
  "def abs: if . < 0 then -. else . end;",
  "def select(f): if f then . else empty end;",
  "def isboolean: type == \"boolean\";",
  "def isnumber: type == \"number\";",
  "def isstring: type == \"string\";",
  "def isarray: type == \"array\";",
  "def isobject: type == \"object\";",
  "def nulls: select(. == null);",
  "def values: select(. != null);",
  "def booleans: select(isboolean);",
  "def numbers: select(isnumber);",
  "def strings: select(isstring);",
  "def arrays: select(isarray);",
  "def objects: select(isobject);",
  "def iterables: select(isarray or isobject);",
  "def scalars: select(isarray or isobject | not);",
  "def toarray: if isarray then . else [.] end;",
  "def recurse(f): def go: ., (f | go); go;",
  "def recurse: recurse(.[]?);",
  "def recurse(f; condition): recurse(f | select(condition));",
  "def map(f): [.[] | f];",
  "def map_values(f): .[] |= f;",
  "def walk(f): def go: (.[]? |= go) | f; go;",
  "def del(f): f |= empty;",
  "def add(f): reduce f as $x (null; . + $x);",
  "def add: add(.[]);",
  "def range($upto): range(0; $upto; 1);",
  "def range($from; $upto): range($from; $upto; 1);",
  "def until(condition; f): def go: if condition then . else f | go end; go;",
  "def while(condition; f): def go: if condition then ., (f | go) else empty end; go;",
  "def repeat(f): def go: ., (f | go); go;",
  "def first: .[0];",
  "def last: .[-1];",
  "def nth($n): .[$n];",
  "def nth($n; f): last(limit($n + 1; f));",
  "def isempty(f): first((f | false), true);",
  "def all(f; condition): isempty(first(f | condition and empty));",
  "def all(f): all(.[]; f);",
  "def all: all(.[]; .);",
  "def any(f; condition): isempty(first(f | condition or empty)) | not;",
  "def any(f): any(.[]; f);",
  "def any: any(.[]; .);",
  "def in(xs): . as $x | xs | has($x);",
  "def inside(xs): . as $x | xs | contains($x);",
  "def to_entries: [keys_unsorted[] as $k | {key: $k, value: .[$k]}];",
  "def from_entries: reduce .[] as $x ({}; . + {($x.key): $x.value});",
  "def with_entries(f): to_entries | map(f) | from_entries;",
  "def unique_by(f): [group_by(f)[] | .[0]];",
  "def unique: unique_by(.);",
  "def min: min_by(.);",
  "def max: max_by(.);",
  "def flatten: [recurse(arrays[]) | select(isarray | not)];",
  "def flatten($depth):",
  "  if $depth > 0 then map(if isarray then flatten($depth - 1) else [.] end) | add end;",
  "def join($x):",
  "  if . == [] then \"\"",
  "  else reduce .[1:][] as $y (.[0] | tostring; . + $x + ($y | tostring)) end;"]

/-- The definitions of the prelude. -/
def definitions : List Definition :=
  (Definition.ofSource? (String.intercalate "\n" lines)).getD []

/-- The environment in which filters are evaluated. -/
def environment : Environment :=
  Environment.empty.define definitions

end FontCompiler.Query.Prelude
