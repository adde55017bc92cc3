/-!
# Faults of JSON text

The ways in which a text fails to be JSON, and their wording.
-/

namespace FontCompiler.Json

/-- Why a text cannot be read any further. -/
inductive SyntaxFault
  | unfinishedValue
  | unfinishedString
  | unfinishedArray
  | unfinishedObject
  | expectedValue
  | expectedWord
  | expectedColon
  | expectedItemSeparator
  | expectedEntrySeparator
  | expectedQuote
  | keyNotString
  | trailingComma
  | trailingCharacters
  | invalidNumber
  | numberOutOfRange
  | invalidEscape
  | controlCharacter
  | loneSurrogate
  | unfinishedSurrogatePair
  | nestedTooDeep
  deriving DecidableEq, Repr

/-- The wording of a fault. -/
def SyntaxFault.message : SyntaxFault → String
  | .unfinishedValue => "EOF while parsing a value"
  | .unfinishedString => "EOF while parsing a string"
  | .unfinishedArray => "EOF while parsing a list"
  | .unfinishedObject => "EOF while parsing an object"
  | .expectedValue => "expected value"
  | .expectedWord => "expected ident"
  | .expectedColon => "expected `:`"
  | .expectedItemSeparator => "expected `,` or `]`"
  | .expectedEntrySeparator => "expected `,` or `\x7d`"
  | .expectedQuote => "expected `\"`"
  | .keyNotString => "key must be a string"
  | .trailingComma => "trailing comma"
  | .trailingCharacters => "trailing characters"
  | .invalidNumber => "invalid number"
  | .numberOutOfRange => "number out of range"
  | .invalidEscape => "invalid escape"
  | .controlCharacter =>
    "control character (\\u0000-\\u001F) found while parsing a string"
  | .loneSurrogate => "lone leading surrogate in hex escape"
  | .unfinishedSurrogatePair => "unexpected end of hex escape"
  | .nestedTooDeep => "recursion limit exceeded"

end FontCompiler.Json
