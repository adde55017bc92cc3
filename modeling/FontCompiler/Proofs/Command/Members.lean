import FontCompiler.Proofs.Command.Streams
import FontCompiler.Proofs.Encoder.TableNames
import FontCompiler.Proofs.Encoder.Reading
import FontCompiler.Proofs.Factory.Rebuild

/-!
# Members of a source text

All members that a generation declares stand in one class: a factory for each
font, a table for each of its ranges, and the method that encodes a text.  Their
names are put together from labels and bounds.  No two of them are the same if
the labels of the fonts differ and no font names a range twice.

The members are read off the delivered source text, font by font.  Tables and
methods are read to their ends.  A factory is read by its head only, since the
texts of a graph may end their own literals.
-/

namespace FontCompiler.Command

open Encoder Factory Files Generated Manifest

/-! ## Names -/

/-- A generated member of a font. -/
inductive Member
  | factory (label : String)
  | table (label : String) (first last : Nat)
  | encoder (label : String)

namespace Member

def label : Member → String
  | .factory label => label
  | .table label _ _ => label
  | .encoder label => label

/-- The name that a member is declared under. -/
def name : Member → String
  | .factory label => "Create" ++ label
  | .table label first last => GlyphRange.tableName label ⟨first, last, []⟩
  | .encoder label => "EncodeText" ++ label

def initial : Member → Char
  | .factory _ => 'C'
  | .table _ _ _ => 'G'
  | .encoder _ => 'E'

end Member

/-- The texts that the code of a font is made of. -/
structure Parts where
  factory : String
  tables : String
  encoder : String

def Parts.text (parts : Parts) : String :=
  parts.factory ++ (parts.tables ++ parts.encoder)

/-- What is read of the code of a font. -/
structure Reading where
  factory : String
  tables : List (String × List Nat)
  method : Method

def Reading.names (reading : Reading) : List String :=
  reading.factory :: (reading.tables.map Prod.fst ++ [reading.method.name])

/-- Reads the name of a factory from its head. -/
def readFactoryName : List Token → Option String
  | .word "internal" :: .word "static" :: .word "GeneralDict" :: .word name :: .symbol '(' ::
      .word "Document" :: .word "document" :: .symbol ')' :: .symbol '{' :: _ => some name
  | _ => none

/-- Reads the code of a font. -/
def Parts.read (parts : Parts) : Option Reading := do
  let factory ← readFactoryName (scan parts.factory)
  let tables ← readTables (scan parts.tables)
  let method ← readMethod (scan parts.encoder)
  return ⟨factory, tables, method⟩

section

variable {system : System (StateM Store)} {runner : Query.Runner} {generation : Generation}
  {store after : Store} {fonts : List ManifestFont}

end

end FontCompiler.Command
