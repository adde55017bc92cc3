import FontCompiler.Code
import FontCompiler.Encoder.GlyphRange
import FontCompiler.Log
import FontCompiler.Numeric.Decimal

/-!
# Generated encoders

The encoder of a font is a table per glyph range and a method that walks the
units of a text.  The method tests the ranges in order, takes the table of the
first that contains the unit, and ends in an exception for units outside every
range.  Ranges are meant to be disjoint; where they overlap, the earlier wins.
-/

namespace FontCompiler.Encoder

/-- The indent of the statements in the loop over the units. -/
def loopIndent : Nat := Code.statementIndent + 4

/-- The indent of the statements in a branch of the loop. -/
def branchIndent : Nat := loopIndent + 4

/-- The entry of a table for one glyph. -/
def tableEntry (glyph : UInt16) : String :=
  "'\\x" ++ Text.upperHex 4 glyph.toNat ++ "', "

/-- The line that declares the table of a range. -/
def tableLine (label : String) (range : GlyphRange) : String :=
  "internal static readonly char[] " ++ range.tableName label ++ " = new char[] \x7b " ++
    String.join (range.glyphs.map tableEntry) ++ "\x7d;"

/-- The tables of a list of ranges. -/
def tablesSource (label : String) (ranges : List GlyphRange) : String :=
  let opened := Code.empty.line Code.memberIndent Code.header
  let tables := ranges.foldl
    (fun code range => code.line Code.memberIndent (tableLine label range)) opened
  tables.blank.text

/-- The record that goes with the tables. -/
def tablesRecord (label : String) (ranges : List GlyphRange) : Log.Record :=
  ⟨.debug, .encoder,
    "emitted " ++ Numeric.decimalDigits ranges.length ++ " glyph tables for " ++ label⟩

/-- A bound as it stands in a condition. -/
def boundLiteral (codepoint : Nat) : String :=
  "0x" ++ Text.lowerHex 4 codepoint

/-- Writes the branch of a range; all but the first continue the one before. -/
def writeBranch (label : String) (leading : Bool) (range : GlyphRange) (code : Code) : Code :=
  ((((code.line loopIndent
    ((if leading then "" else "else ") ++ "if (ch >= " ++ boundLiteral range.first ++
      " && ch <= " ++ boundLiteral range.last ++ ")")).line
    loopIndent "\x7b").line
    branchIndent ("glyphIndexArray = " ++ range.tableName label ++ ";")).line
    branchIndent ("glyphIndex = ch - " ++ boundLiteral range.first ++ ";")).line
    loopIndent "\x7d"

/-- Writes the branches of a list of ranges. -/
def writeBranches (label : String) : (leading : Bool) → List GlyphRange → Code → Code
  | _, [], code => code
  | leading, range :: ranges, code =>
    writeBranches label false ranges (writeBranch label leading range code)

/-- The statement for a unit outside every range. -/
def throwStatement (label : String) : String :=
  "throw new ArgumentException($\"Character U+\x7b(int)ch:X4\x7d is not part of the font " ++
    label ++ " (text: \\\"\x7btext\x7d\\\")\");"

/-- Writes the end of the cascade. -/
def writeOtherwise (label : String) (ranges : List GlyphRange) (code : Code) : Code :=
  if ranges.isEmpty then code.line loopIndent (throwStatement label)
  else
    (((code.line loopIndent "else").line loopIndent "\x7b").line branchIndent
      (throwStatement label)).line loopIndent "\x7d"

/-- The lines of the method in front of the cascade. -/
def decoderOpening (label : String) : List (Nat × String) :=
  [(Code.memberIndent, Code.header),
    (Code.memberIndent, "internal static byte[] EncodeText" ++ label ++ "(string text)"),
    (Code.memberIndent, "\x7b"),
    (Code.statementIndent, "var bytes = new byte[text.Length * 2];"),
    (Code.statementIndent, "for (var i = 0; i < text.Length; i++)"),
    (Code.statementIndent, "\x7b"),
    (loopIndent, "var ch = text[i];"),
    (loopIndent, "char[] glyphIndexArray;"),
    (loopIndent, "int glyphIndex;")]

/-- The lines of the method behind the cascade. -/
def decoderClosing : List (Nat × String) :=
  [(loopIndent, "bytes[i * 2] = (byte)(glyphIndexArray[glyphIndex] >> 8);"),
    (loopIndent, "bytes[i * 2 + 1] = (byte)glyphIndexArray[glyphIndex];"),
    (Code.statementIndent, "\x7d"),
    (Code.statementIndent, "return bytes;"),
    (Code.memberIndent, "\x7d")]

/-- Writes a row of lines. -/
def writeLines (lines : List (Nat × String)) (code : Code) : Code :=
  lines.foldl (fun code line => code.line line.1 line.2) code

/-- The method that encodes a text. -/
def decoderSource (label : String) (ranges : List GlyphRange) : String :=
  let opened := writeLines (decoderOpening label) .empty
  let cascade := writeOtherwise label ranges (writeBranches label true ranges opened)
  (writeLines decoderClosing cascade).blank.blank.text

/-- The tables of a list of ranges and the method that uses them. -/
def source (label : String) (ranges : List GlyphRange) : String :=
  tablesSource label ranges ++ decoderSource label ranges

end FontCompiler.Encoder
