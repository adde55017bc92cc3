/-!
# Text as sixteen-bit units

A character of the basic plane is one unit; any other character is a pair of
surrogates, the high one first.
-/

namespace FontCompiler.Text

/-- The units of one character. -/
def unitsOfChar (char : Char) : List Nat :=
  let codepoint := char.toNat
  if codepoint < 0x10000 then [codepoint]
  else
    let offset := codepoint - 0x10000
    [0xD800 + offset / 0x400, 0xDC00 + offset % 0x400]

/-- The units of a text, in order. -/
def utf16 (text : String) : List Nat :=
  text.toList.flatMap unitsOfChar

/-- Whether a number is a Unicode scalar value, that is, a code point but no surrogate. -/
def isScalar (codepoint : Nat) : Bool :=
  codepoint < 0xD800 || (0xDFFF < codepoint && codepoint < 0x110000)

end FontCompiler.Text
