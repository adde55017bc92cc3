import FontCompiler.Json.NumberText

/-!
# Drafts of JSON documents

A draft is what can be read of a text: a complete document, or one that breaks
off at its first fault.  Whoever walks a draft in document order meets its
parts before the fault, just as if the text were read while walking.

Nesting is limited: the arrays and objects around a value may be 127 deep.
-/

namespace FontCompiler.Json

/-- The key of an entry: its text, and the document from behind its opening quote on. -/
structure DraftKey where
  text : Except SyntaxFault String
  source : List Char
  deriving Repr

/-- A JSON document as far as it can be read. -/
inductive Draft
  /-- The text of the value is at fault. -/
  | fault (cause : SyntaxFault)
  /-- The text between a key and its value is at fault. -/
  | unreached (cause : SyntaxFault)
  | null
  | bool (value : Bool)
  | number (value : Number)
  | string (text : String)
  /-- The items, and the fault that stands in the place of the next item or bracket. -/
  | array (items : List Draft) (cut : Option SyntaxFault)
  /-- The entries, and the fault that stands in the place of the next key or brace. -/
  | object (entries : List (DraftKey × Draft)) (cut : Option SyntaxFault)
  deriving Repr, Inhabited

namespace Draft

/-- What is read of a value: its draft, and the text behind it unless it is at fault. -/
abbrev Reading := Draft × Option (List Char)

/-- The blanks of JSON. -/
def isBlank (char : Char) : Bool :=
  char = ' ' || char = '\n' || char = '\t' || char = '\r'

/-- The text from the first character on that is not a blank. -/
def skipBlanks (chars : List Char) : List Char :=
  chars.dropWhile isBlank

/-- Reads four hexadecimal digits; fewer than four bytes are an unfinished string. -/
def readFourDigits (chars : List Char) : Except SyntaxFault (Nat × List Char) :=
  let digits := chars.take 4
  if (String.ofList digits).utf8ByteSize < 4 then .error .unfinishedString
  else
    match Text.hexValue? digits with
    | some value => .ok (value, chars.drop 4)
    | none => .error .invalidEscape

/-- Reads the second half of a surrogate pair, whose first half is given. -/
def readLowSurrogate (high : Nat) : List Char → Except SyntaxFault (Char × List Char)
  | [] => .error .unfinishedString
  | '\\' :: [] => .error .unfinishedString
  | '\\' :: 'u' :: chars => do
    let (low, rest) ← readFourDigits chars
    if low < 0xDC00 ∨ 0xDFFF < low then .error .loneSurrogate
    else .ok (Char.ofNat (0x10000 + (high - 0xD800) * 0x400 + (low - 0xDC00)), rest)
  | _ => .error .unfinishedSurrogatePair

/-- Reads an escape, from behind its backslash on. -/
def readEscape : List Char → Except SyntaxFault (Char × List Char)
  | [] => .error .unfinishedString
  | '\"' :: chars => .ok ('\"', chars)
  | '\\' :: chars => .ok ('\\', chars)
  | '/' :: chars => .ok ('/', chars)
  | 'b' :: chars => .ok (Char.ofNat 8, chars)
  | 'f' :: chars => .ok (Char.ofNat 12, chars)
  | 'n' :: chars => .ok ('\n', chars)
  | 'r' :: chars => .ok ('\r', chars)
  | 't' :: chars => .ok ('\t', chars)
  | 'u' :: chars => do
    let (unit, rest) ← readFourDigits chars
    if 0xDC00 ≤ unit ∧ unit ≤ 0xDFFF then .error .loneSurrogate
    else if 0xD800 ≤ unit ∧ unit < 0xDC00 then readLowSurrogate unit rest
    else .ok (Char.ofNat unit, rest)
  | _ => .error .invalidEscape

/-- Reads the characters of a string up to its closing quote. -/
def readChars : (fuel : Nat) → (read : List Char) → List Char →
    Except SyntaxFault (String × List Char)
  | 0, _, _ => .error .unfinishedString
  | fuel + 1, read, chars =>
    match chars with
    | [] => .error .unfinishedString
    | '\"' :: rest => .ok (String.ofList read.reverse, rest)
    | '\\' :: rest => do
      let (char, rest) ← readEscape rest
      readChars fuel (char :: read) rest
    | char :: rest =>
      if char.toNat < 0x20 then .error .controlCharacter
      else readChars fuel (char :: read) rest

/-- Reads a string, from behind its opening quote on. -/
def readString (chars : List Char) : Except SyntaxFault (String × List Char) :=
  readChars (chars.length + 1) [] chars

/-- Reads the rest of one of the three words of JSON. -/
def readWord (draft : Draft) : (expected : List Char) → List Char → Reading
  | [], chars => (draft, some chars)
  | _ :: _, [] => (.fault .unfinishedValue, none)
  | expected :: others, char :: chars =>
    if char = expected then readWord draft others chars else (.fault .expectedWord, none)

/-- Reads the items of an array up to its closing bracket. -/
def readItems (readValue : List Char → Reading) :
    (fuel : Nat) → (read : List Draft) → List Char → Reading
  | 0, read, _ => (.array read.reverse (some .unfinishedArray), none)
  | fuel + 1, read, chars =>
    let readItem (chars : List Char) : Reading :=
      match readValue chars with
      | (item, some rest) => readItems readValue fuel (item :: read) rest
      | (item, none) => (.array (item :: read).reverse none, none)
    let cut (cause : SyntaxFault) : Reading := (.array read.reverse (some cause), none)
    match skipBlanks chars with
    | [] => cut .unfinishedArray
    | ']' :: rest => (.array read.reverse none, some rest)
    | char :: rest =>
      if read.isEmpty then readItem (char :: rest)
      else if char = ',' then
        match skipBlanks rest with
        | [] => cut .unfinishedValue
        | ']' :: _ => cut .trailingComma
        | rest => readItem rest
      else cut .expectedItemSeparator

/-- Reads the value of an entry, from behind its key on. -/
def readEntryValue (readValue : List Char → Reading) (chars : List Char) : Reading :=
  match skipBlanks chars with
  | [] => (.unreached .unfinishedObject, none)
  | ':' :: rest => readValue rest
  | _ => (.unreached .expectedColon, none)

/-- Reads an entry, from behind the opening quote of its key on. -/
def readEntry (readValue : List Char → Reading) (chars : List Char) :
    (DraftKey × Draft) × Option (List Char) :=
  match readString chars with
  | .error cause => ((⟨.error cause, chars⟩, .unreached cause), none)
  | .ok (key, rest) =>
    let (value, rest) := readEntryValue readValue rest
    ((⟨.ok key, chars⟩, value), rest)

/-- Reads the entries of an object up to its closing brace. -/
def readEntries (readValue : List Char → Reading) :
    (fuel : Nat) → (read : List (DraftKey × Draft)) → List Char → Reading
  | 0, read, _ => (.object read.reverse (some .unfinishedObject), none)
  | fuel + 1, read, chars =>
    let readNext (chars : List Char) : Reading :=
      match readEntry readValue chars with
      | (entry, some rest) => readEntries readValue fuel (entry :: read) rest
      | (entry, none) => (.object (entry :: read).reverse none, none)
    let cut (cause : SyntaxFault) : Reading := (.object read.reverse (some cause), none)
    match skipBlanks chars with
    | [] => cut .unfinishedObject
    | '}' :: rest => (.object read.reverse none, some rest)
    | char :: rest =>
      if read.isEmpty then
        if char = '\"' then readNext rest else cut .keyNotString
      else if char = ',' then
        match skipBlanks rest with
        | [] => cut .unfinishedValue
        | '}' :: _ => cut .trailingComma
        | '\"' :: rest => readNext rest
        | _ => cut .keyNotString
      else cut .expectedEntrySeparator

/-- Reads a value whose arrays and objects are read in the given ways. -/
def readWith (readArray readObject : List Char → Reading) (chars : List Char) : Reading :=
  match skipBlanks chars with
  | [] => (.fault .unfinishedValue, none)
  | 'n' :: rest => readWord .null ['u', 'l', 'l'] rest
  | 't' :: rest => readWord (.bool true) ['r', 'u', 'e'] rest
  | 'f' :: rest => readWord (.bool false) ['a', 'l', 's', 'e'] rest
  | '\"' :: rest =>
    match readString rest with
    | .ok (text, rest) => (.string text, some rest)
    | .error cause => (.fault cause, none)
  | '[' :: rest => readArray rest
  | '{' :: rest => readObject rest
  | char :: rest =>
    if char = '-' ∨ (Text.decimalDigit? char).isSome then
      match NumberText.read (char :: rest) with
      | .ok (numeral, rest) => (.number numeral, some rest)
      | .error cause => (.fault cause, none)
    else (.fault .expectedValue, none)

/-- Reads a value in which arrays and objects may be nested to a given depth. -/
def readValue : (depth : Nat) → List Char → Reading
  | 0, chars => readWith tooDeep tooDeep chars
  | depth + 1, chars =>
    readWith (fun rest => readItems (readValue depth) (rest.length + 1) [] rest)
      (fun rest => readEntries (readValue depth) (rest.length + 1) [] rest) chars
where
  /-- The reading of an array or object that may not be there. -/
  tooDeep (_ : List Char) : Reading := (.fault .nestedTooDeep, none)

/-- How deep arrays and objects may be nested. -/
def depthLimit : Nat := 127

/-- The draft of a text; what follows the first value is left over. -/
def read (text : String) : Reading :=
  readValue depthLimit text.toList

end Draft

end FontCompiler.Json
