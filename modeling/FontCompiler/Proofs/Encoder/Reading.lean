import FontCompiler.Encoder.Source
import FontCompiler.Proofs.Generated.Token

/-!
# Generated encoders read back

A generated encoder consists of tables and of a method that walks the units of
a text.  This module reads both from their tokens: the tables as rows of
numbers under names, and the method as its cascade of branches, one for each
range.  The lines of the method around the cascade are fixed, and are expected
as they are.

The texts of a list of ranges are read as the tables and the branches of these
ranges, in their order.
-/

namespace FontCompiler.Encoder

open Generated

/-! ## Readers -/

/-- The table that a unit is looked up in if it lies between two bounds. -/
structure Branch where
  lower : Nat
  upper : Nat
  table : String
  /-- What is taken from the unit to get its place in the table. -/
  offset : Nat
  deriving DecidableEq, Repr

/-- The method of an encoder; units outside all branches have an exception. -/
structure Method where
  name : String
  branches : List Branch
  deriving DecidableEq, Repr

/-- The value of a character literal that is escaped with one to four digits. -/
def unitValue? (content : String) : Option Nat :=
  match content.toList with
  | '\\' :: 'x' :: digits =>
    if 0 < digits.length ∧ digits.length ≤ 4 then Text.hexValue? digits else none
  | _ => none

/-- Reads the entries of a table up to the brace that closes them. -/
def readUnits : List Token → Option (List Nat × List Token)
  | .symbol '}' :: rest => some ([], rest)
  | .unit content :: .symbol ',' :: rest => do
    let value ← unitValue? content
    let (values, rest) ← readUnits rest
    return (value :: values, rest)
  | _ => none

/-- Reads the declaration of a table. -/
def readTable (tokens : List Token) : Option ((String × List Nat) × List Token) := do
  let rest ← expect (scan "internal static readonly char[]") tokens
  let (name, rest) ← readWord rest
  let rest ← expect (scan "= new char[] \x7b") rest
  let (values, rest) ← readUnits rest
  let rest ← expect (scan ";") rest
  return ((name, values), rest)

/-- Reads declarations of tables up to the end, in a number of steps. -/
def readTableList : (steps : Nat) → List Token → Option (List (String × List Nat))
  | _, [] => some []
  | 0, _ :: _ => none
  | steps + 1, tokens => do
    let (table, rest) ← readTable tokens
    let tables ← readTableList steps rest
    return table :: tables

/-- Reads declarations of tables up to the end. -/
def readTables (tokens : List Token) : Option (List (String × List Nat)) :=
  readTableList tokens.length tokens

/-- Reads the exception for units outside all branches. -/
def readThrow (tokens : List Token) : Option (List Token) := do
  let rest ← expect (scan "throw new ArgumentException($") tokens
  match rest with
  | .string _ :: rest => expect (scan ");") rest
  | _ => none

/-- Reads a branch up to the end of its block. -/
def readBranch (tokens : List Token) : Option (Branch × List Token) := do
  let rest ← expect (scan "if (ch >=") tokens
  let (lower, rest) ← readHex rest
  let rest ← expect (scan "&& ch <=") rest
  let (upper, rest) ← readHex rest
  let rest ← expect (scan ") \x7b glyphIndexArray =") rest
  let (table, rest) ← readWord rest
  let rest ← expect (scan "; glyphIndex = ch -") rest
  let (offset, rest) ← readHex rest
  let rest ← expect (scan "; \x7d") rest
  return (⟨lower, upper, table, offset⟩, rest)

/-- Reads a cascade: the exception, alone or in a block, or a branch with another cascade. -/
def readCascade : (steps : Nat) → List Token → Option (List Branch × List Token)
  | 0, _ => none
  | steps + 1, tokens =>
    match tokens with
    | .word "throw" :: _ => do
      let rest ← readThrow tokens
      return ([], rest)
    | .symbol '{' :: rest => do
      let rest ← readThrow rest
      let rest ← expect (scan "\x7d") rest
      return ([], rest)
    | _ => do
      let (branch, rest) ← readBranch tokens
      let rest ← expect (scan "else") rest
      let (branches, rest) ← readCascade steps rest
      return (branch :: branches, rest)

/-- What stands between the head of a method and its cascade: two bytes for each unit in turn. -/
def loopOpening : List String :=
  ["\x7b", "var bytes = new byte[text.Length * 2];",
    "for (var i = 0; i < text.Length; i++)", "\x7b", "var ch = text[i];",
    "char[] glyphIndexArray;", "int glyphIndex;"]

/-- What stands behind the cascade, and writes the high byte and then the low one. -/
def loopClosing : List String :=
  ["bytes[i * 2] = (byte)(glyphIndexArray[glyphIndex] >> 8);",
    "bytes[i * 2 + 1] = (byte)glyphIndexArray[glyphIndex];", "\x7d",
    "return bytes;", "\x7d"]

/-- Reads a method, whose loop is always the same but for its cascade. -/
def readMethod (tokens : List Token) : Option Method := do
  let rest ← expect (scan "internal static byte[]") tokens
  let (name, rest) ← readWord rest
  let rest ← expect (scan "(string text)") rest
  let rest ← expect (loopOpening.flatMap scan) rest
  let (branches, rest) ← readCascade rest.length rest
  let rest ← expect (loopClosing.flatMap scan) rest
  match rest with
  | [] => return ⟨name, branches⟩
  | _ => none

/-! ## Tables -/

/-- The content of the literal of a glyph. -/
def unitContent (glyph : UInt16) : String :=
  "\\x" ++ Text.upperHex 4 glyph.toNat

/-- The tokens of the entries of a table; a comma stands behind each. -/
def unitsTokens : List UInt16 → List Token
  | [] => []
  | glyph :: glyphs => .unit (unitContent glyph) :: .symbol ',' :: unitsTokens glyphs

/-- The tokens of the table of a range. -/
def tableTokens (label : String) (range : GlyphRange) : List Token :=
  scan "internal static readonly char[]" ++ .word (range.tableName label) ::
    (scan "= new char[] \x7b" ++
      (unitsTokens range.glyphs ++ .symbol '}' :: scan ";"))

/-- The table of a range: its name and the values in it. -/
def tableOf (label : String) (range : GlyphRange) : String × List Nat :=
  (range.tableName label, range.glyphs.map UInt16.toNat)

theorem unitValue?_unitContent (glyph : UInt16) :
    unitValue? (unitContent glyph) = some glyph.toNat := by
  have opened :
      (unitContent glyph).toList =
        '\\' :: 'x' :: (Text.upperHex 4 glyph.toNat).toList := by
    simp [unitContent]
  have four : (Text.upperHex 4 glyph.toNat).toList.length = 4 :=
    Text.length_upperHex (by decide) glyph.toNat_lt
  simp only [unitValue?, opened, four, Text.hexValue?_upperHex]
  rfl

theorem readUnits_tokens (glyphs : List UInt16) (rest : List Token) :
    readUnits (unitsTokens glyphs ++ .symbol '}' :: rest) =
      some (glyphs.map UInt16.toNat, rest) := by
  induction glyphs with
  | nil => simp [unitsTokens, readUnits]
  | cons glyph glyphs ih =>
      simp [unitsTokens, readUnits, unitValue?_unitContent, ih]

theorem readTable_tokens (label : String) (range : GlyphRange)
    (rest : List Token) :
    readTable (tableTokens label range ++ rest) =
      some (tableOf label range, rest) := by
  simp [readTable, tableTokens, readUnits_tokens, tableOf]

theorem readTableList_tokens (label : String) (ranges : List GlyphRange)
    (steps : Nat)
    (enough : (ranges.flatMap (tableTokens label)).length ≤ steps) :
    readTableList steps (ranges.flatMap (tableTokens label)) =
      some (ranges.map (tableOf label)) := by
  induction ranges generalizing steps with
  | nil => cases steps <;> rfl
  | cons range ranges ih =>
      have opened : ∃ token others, tableTokens label range = token :: others :=
        ⟨_, _, rfl⟩
      rcases opened with ⟨token, others, shape⟩
      rw [List.flatMap_cons, List.length_append, shape, List.length_cons]
        at enough
      rcases Nat.exists_eq_add_one.mpr (by omega : 0 < steps) with
        ⟨steps, rfl⟩
      have first := readTable_tokens label range (ranges.flatMap (tableTokens label))
      have others := ih steps (by omega)
      rw [List.flatMap_cons, shape, List.cons_append, readTableList]
      · rw [← List.cons_append, ← shape]
        simp [first, others]
      · simp

/-! ## The text of the tables -/

theorem isIdentifier_tableName {label : String} (range : GlyphRange)
    (identifier : Code.isIdentifier label = true) :
    Code.isIdentifier (range.tableName label) = true := by
  have digits (number : Nat) :
      ∀ char ∈ (Text.lowerHex 4 number).toList,
        Code.isIdentifierPart char = true :=
    Text.forall_mem_lowerHex
      (by decide : ∀ digit < 16,
        Code.isIdentifierPart digit.digitChar = true) 4 number
  have underscore : ∀ char ∈ "_".toList, Code.isIdentifierPart char = true :=
    parts_of_isIdentifier (by decide)
  have labelled : Code.isIdentifier ("GlyphIndexes" ++ label) = true :=
    isIdentifier_append (by decide) (parts_of_isIdentifier identifier)
  have opened := isIdentifier_append labelled underscore
  have lower := isIdentifier_append opened (digits range.first)
  have closed := isIdentifier_append lower underscore
  exact isIdentifier_append closed (digits range.last)

theorem scans_tableEntry (glyph : UInt16) :
    Scans .between (tableEntry glyph)
      [.unit (unitContent glyph), .symbol ','] .between := by
  have digits :
      ∀ char ∈ (Text.upperHex 4 glyph.toNat).toList,
        char ≠ '\'' ∧ isLineBreak char = false :=
    Text.forall_mem_upperHex (by decide) 4 glyph.toNat
  have opened :
      (unitContent glyph).toList =
        '\\' :: 'x' :: (Text.upperHex 4 glyph.toNat).toList := by
    simp [unitContent]
  have plain :
      ∀ char ∈ (unitContent glyph).toList,
        char ≠ '\'' ∧ isLineBreak char = false := by
    rw [opened, List.forall_mem_cons, List.forall_mem_cons]
    exact ⟨by decide, by decide, digits⟩
  have whole := (scans_unit plain).append scans_comma
  have text :
      tableEntry glyph = "'" ++ unitContent glyph ++ "'" ++ ", " := by
    apply String.toList_injective
    simp [tableEntry, unitContent]
  rw [text]
  exact whole

theorem scans_tableEntries (glyphs : List UInt16) :
    Scans .between (String.join (glyphs.map tableEntry)) (unitsTokens glyphs)
      .between := by
  induction glyphs with
  | nil => exact fun _ => rfl
  | cons glyph glyphs ih =>
      have whole := (scans_tableEntry glyph).append ih
      simpa [unitsTokens] using whole

theorem scans_tableLine {label : String} (range : GlyphRange)
    (identifier : Code.isIdentifier label = true) :
    Scans .between (tableLine label range) (tableTokens label range)
      .between := by
  have modifiers :
      Scans .between "internal static readonly char[] "
        (scan "internal static readonly char[]") .between :=
    Scans.of_scan (by decide +kernel)
  have opening :
      Scans .between " = new char[] \x7b " (scan "= new char[] \x7b") .between :=
    Scans.of_scan (by decide +kernel)
  have closing :
      Scans .between "\x7d;" (.symbol '}' :: scan ";") .between :=
    fun _ => rfl
  have named :=
    (modifiers.append_reads
      (reads_word (isIdentifier_tableName range identifier))).scans opening
      (by decide)
  have whole :=
    (named.append (scans_tableEntries range.glyphs)).append closing
  simp only [List.append_assoc, List.singleton_append] at whole
  exact whole

theorem scans_tableLines {label : String} (ranges : List GlyphRange)
    (identifier : Code.isIdentifier label = true)
    {code : Code} {tokens : List Token}
    (written : Scans .between code.text tokens .between) :
    Scans .between
      (ranges.foldl (fun code range =>
        code.line Code.memberIndent (tableLine label range)) code).text
      (tokens ++ ranges.flatMap (tableTokens label)) .between := by
  induction ranges generalizing code tokens with
  | nil => simpa using written
  | cons range ranges ih =>
      have first :=
        scans_codeLine written Code.memberIndent
          (scans_tableLine range identifier).reads
      simpa using ih first

theorem readTables_tablesSource {label : String} (ranges : List GlyphRange)
    (identifier : Code.isIdentifier label = true) :
    readTables (scan (tablesSource label ranges)) =
      some (ranges.map (tableOf label)) := by
  have opened :
      Scans .between (Code.empty.line Code.memberIndent Code.header).text []
        .between := scans_codeHeader (fun _ => rfl) Code.memberIndent
  have whole :=
    scans_codeBlank (scans_tableLines ranges identifier opened)
  have scanned :
      scan (tablesSource label ranges) = ranges.flatMap (tableTokens label) :=
    whole.scan_eq
  rw [readTables, scanned]
  exact readTableList_tokens label ranges _ (Nat.le_refl _)

/-! ## The cascade -/

/-- The branch of a range. -/
def branchOf (label : String) (range : GlyphRange) : Branch :=
  ⟨range.first, range.last, range.tableName label, range.first⟩

/-- The message of the exception, with its interpolations. -/
def throwMessage (label : String) : String :=
  "Character U+\x7b(int)ch:X4\x7d is not part of the font " ++ label ++
    " (text: \"\x7btext\x7d\")"

/-- The tokens of the exception. -/
def throwTokens (label : String) : List Token :=
  scan "throw new ArgumentException($" ++ .string (throwMessage label) :: scan ");"

/-- The tokens of the branch of a range. -/
def branchTokens (label : String) (range : GlyphRange) : List Token :=
  scan "if (ch >=" ++ .number (boundLiteral range.first) ::
    (scan "&& ch <=" ++ .number (boundLiteral range.last) ::
      (scan ") \x7b glyphIndexArray =" ++ .word (range.tableName label) ::
        (scan "; glyphIndex = ch -" ++ .number (boundLiteral range.first) ::
          scan "; \x7d")))

/-- The tokens of the branches of ranges and of the block behind the last `else`. -/
def chainTokens (label : String) : List GlyphRange → List Token
  | [] => .symbol '{' :: (throwTokens label ++ scan "\x7d")
  | range :: ranges =>
    branchTokens label range ++ (scan "else" ++ chainTokens label ranges)

/-- The tokens of a cascade; without ranges it is the exception alone. -/
def cascadeTokens (label : String) (ranges : List GlyphRange) : List Token :=
  if ranges.isEmpty then throwTokens label else chainTokens label ranges

theorem readThrow_tokens (label : String) (rest : List Token) :
    readThrow (throwTokens label ++ rest) = some rest := by
  simp [readThrow, throwTokens]

theorem readBranch_tokens (label : String) (range : GlyphRange)
    (rest : List Token) :
    readBranch (branchTokens label range ++ rest) =
      some (branchOf label range, rest) := by
  simp [readBranch, branchTokens, boundLiteral, branchOf]

theorem readCascade_chainTokens (label : String) (ranges : List GlyphRange)
    (steps : Nat) (rest : List Token)
    (enough : ranges.length < steps) :
    readCascade steps (chainTokens label ranges ++ rest) =
      some (ranges.map (branchOf label), rest) := by
  induction ranges generalizing steps with
  | nil =>
      rcases Nat.exists_eq_add_one.mpr (Nat.zero_lt_of_lt enough) with
        ⟨steps, rfl⟩
      simp [chainTokens, readCascade, readThrow_tokens]
  | cons range ranges ih =>
      rw [List.length_cons] at enough
      rcases Nat.exists_eq_add_one.mpr (Nat.zero_lt_of_lt enough) with
        ⟨steps, rfl⟩
      have others := ih steps (by omega)
      have first :=
        readBranch_tokens label range
          (scan "else" ++ (chainTokens label ranges ++ rest))
      -- a branch opens with neither a brace nor an exception
      have opened :
          ∃ more, branchTokens label range = .word "if" :: more := ⟨_, rfl⟩
      rcases opened with ⟨more, shape⟩
      rw [chainTokens, List.append_assoc, List.append_assoc, shape,
        List.cons_append, readCascade, ← List.cons_append, ← shape]
      · simp [first, others]
      · simp
      · simp

theorem length_le_chainTokens (label : String) (ranges : List GlyphRange) :
    ranges.length < (chainTokens label ranges).length := by
  induction ranges with
  | nil => simp [chainTokens]
  | cons range ranges ih =>
      simp only [chainTokens, List.length_cons, List.length_append]
      have opened : 0 < (scan "else").length := by decide
      omega

theorem readCascade_tokens (label : String) (ranges : List GlyphRange)
    (rest : List Token) :
    readCascade (cascadeTokens label ranges ++ rest).length
        (cascadeTokens label ranges ++ rest) =
      some (ranges.map (branchOf label), rest) := by
  cases ranges with
  | nil =>
      have opened : ∃ more, throwTokens label = .word "throw" :: more := ⟨_, rfl⟩
      rcases opened with ⟨more, shape⟩
      have read := readThrow_tokens label rest
      simp only [cascadeTokens, List.isEmpty_nil, if_true]
      rw [shape] at read ⊢
      simp only [List.cons_append, List.length_cons] at read ⊢
      simp [readCascade, read]
  | cons range ranges =>
      have short := length_le_chainTokens label (range :: ranges)
      apply readCascade_chainTokens
      rw [cascadeTokens, List.length_append]
      exact Nat.lt_add_right _ short

/-! ## The text of the cascade -/

theorem scans_throwStatement {label : String}
    (identifier : Code.isIdentifier label = true) :
    Scans .between (throwStatement label) (throwTokens label) .between := by
  have opening :
      Scans .between
        "throw new ArgumentException($\"Character U+\x7b(int)ch:X4\x7d is not part of the font "
        (scan "throw new ArgumentException($")
        (.string
          ("Character U+\x7b(int)ch:X4\x7d is not part of the font ".toList.reverse ++ [])) :=
    Scans.of_scan (by decide +kernel)
  have closing (read : List Char) :
      Scans (.string read) " (text: \\\"\x7btext\x7d\\\")\");"
        (.string (textOf (" (text: \"\x7btext\x7d\")".toList.reverse ++ read)) :: scan ");")
        .between := fun _ => rfl
  have whole :=
    (opening.append (scans_plain (plain_of_isIdentifier identifier) _)).append
      (closing _)
  rw [textOf_reverse_reverse_reverse] at whole
  simp only [List.append_nil] at whole
  exact whole

theorem reads_boundLiteral (codepoint : Nat) :
    Reads (boundLiteral codepoint) [.number (boundLiteral codepoint)] :=
  reads_number (isNumeral_lowerHex 4 codepoint)

variable {label : String} {code : Code} {tokens : List Token}

theorem scans_writeBranch
    (identifier : Code.isIdentifier label = true)
    (written : Scans .between code.text tokens .between)
    (leading : Bool) (range : GlyphRange) :
    Scans .between (writeBranch label leading range code).text
      (tokens ++ ((if leading then [] else scan "else") ++
        branchTokens label range)) .between := by
  have chained :
      Scans .between (if leading then "" else "else ")
        (if leading then [] else scan "else") .between := by
    cases leading
    · exact fun _ => rfl
    · exact fun _ => rfl
  have condition : Scans .between "if (ch >= " (scan "if (ch >=") .between :=
    fun _ => rfl
  have conjunction : Scans .between " && ch <= " (scan "&& ch <=") .between :=
    fun _ => rfl
  have parenthesis : Scans .between ")" [.symbol ')'] .between := fun _ => rfl
  have array :
      Scans .between "glyphIndexArray = " (scan "glyphIndexArray =") .between :=
    Scans.of_scan (by decide +kernel)
  have index :
      Scans .between "glyphIndex = ch - " (scan "glyphIndex = ch -") .between :=
    Scans.of_scan (by decide +kernel)
  have semicolon : Scans .between ";" [.symbol ';'] .between := fun _ => rfl
  have name := reads_word (isIdentifier_tableName range identifier)
  have lower := reads_boundLiteral range.first
  have upper := reads_boundLiteral range.last
  have conditionLine :=
    (((((chained.append condition).append_reads lower).scans conjunction
      (by decide)).append_reads upper).scans parenthesis (by decide))
  have arrayLine := (array.append_reads name).scans semicolon (by decide)
  have indexLine := (index.append_reads lower).scans semicolon (by decide)
  have whole :=
    scans_codeLine
      (scans_codeLine
        (scans_codeLine
          (scans_codeLine
            (scans_codeLine written loopIndent conditionLine.reads)
            loopIndent scans_openBrace.reads)
          branchIndent arrayLine.reads)
        branchIndent indexLine.reads)
      loopIndent scans_closeBrace.reads
  have blockTokens :
      scan ") \x7b glyphIndexArray =" =
        .symbol ')' :: .symbol '{' :: scan "glyphIndexArray =" := by
    decide +kernel
  have nextTokens :
      scan "; glyphIndex = ch -" = .symbol ';' :: scan "glyphIndex = ch -" := by
    decide +kernel
  have endTokens : scan "; \x7d" = [.symbol ';', .symbol '}'] := by
    decide +kernel
  rw [branchTokens, blockTokens, nextTokens, endTokens]
  simp only [List.append_assoc, List.cons_append, List.nil_append] at whole ⊢
  exact whole

/-- The branches behind the first one and the block behind the last `else`. -/
theorem scans_chain
    (identifier : Code.isIdentifier label = true)
    (written : Scans .between code.text tokens .between)
    (first : GlyphRange) (ranges : List GlyphRange) :
    Scans .between
      (writeOtherwise label (first :: ranges)
        (writeBranches label false ranges code)).text
      (tokens ++ (scan "else" ++ chainTokens label ranges)) .between := by
  induction ranges generalizing code tokens with
  | nil =>
      have chained : Reads "else" (scan "else") := reads_word (by decide)
      have whole :=
        scans_codeLine
          (scans_codeLine
            (scans_codeLine
              (scans_codeLine written loopIndent chained)
              loopIndent scans_openBrace.reads)
            branchIndent (scans_throwStatement identifier).reads)
          loopIndent scans_closeBrace.reads
      simp only [List.append_assoc, List.singleton_append] at whole
      exact whole
  | cons range ranges ih =>
      have branch := scans_writeBranch identifier written false range
      have others := ih branch
      simp only [List.append_assoc] at others
      exact others

theorem scans_cascade
    (identifier : Code.isIdentifier label = true)
    (written : Scans .between code.text tokens .between)
    (ranges : List GlyphRange) :
    Scans .between
      (writeOtherwise label ranges (writeBranches label true ranges code)).text
      (tokens ++ cascadeTokens label ranges) .between := by
  cases ranges with
  | nil =>
      exact
        scans_codeLine written loopIndent
          (scans_throwStatement identifier).reads
  | cons range ranges =>
      have branch := scans_writeBranch identifier written true range
      have others := scans_chain identifier branch range ranges
      simp only [List.append_assoc] at others
      exact others

/-! ## The text of the method -/

/-- The method of a list of ranges. -/
def methodOf (label : String) (ranges : List GlyphRange) : Method :=
  ⟨"EncodeText" ++ label, ranges.map (branchOf label)⟩

/-- The tokens of the method of a list of ranges. -/
def methodTokens (label : String) (ranges : List GlyphRange) : List Token :=
  scan "internal static byte[]" ++ .word ("EncodeText" ++ label) ::
    (scan "(string text)" ++
      (loopOpening.flatMap scan ++
        (cascadeTokens label ranges ++ loopClosing.flatMap scan)))

theorem readMethod_tokens (label : String) (ranges : List GlyphRange) :
    readMethod (methodTokens label ranges) = some (methodOf label ranges) := by
  simp only [readMethod, methodTokens, expect_append, readWord_cons,
    readCascade_tokens, expect_self, Option.bind_eq_bind, Option.bind_some,
    Option.pure_def, methodOf]

/-- Complete lines add their own tokens, one after the other. -/
theorem scans_writeLines {lines : List (Nat × String)}
    (written : Scans .between code.text tokens .between)
    (complete :
      ∀ line ∈ lines, Scans .between line.2 (scan line.2) .between) :
    Scans .between (writeLines lines code).text
      (tokens ++ (lines.map Prod.snd).flatMap scan) .between := by
  induction lines generalizing code tokens with
  | nil =>
      simp only [List.map_nil, List.flatMap_nil, List.append_nil]
      exact written
  | cons line lines ih =>
      rcases List.forall_mem_cons.mp complete with ⟨own, others⟩
      have first := scans_codeLine written line.1 own.reads
      have whole := ih first others
      simp only [List.append_assoc] at whole
      exact whole

theorem scans_signature
    (identifier : Code.isIdentifier label = true) :
    Scans .between
      ("internal static byte[] EncodeText" ++ label ++ "(string text)")
      (scan "internal static byte[]" ++ .word ("EncodeText" ++ label) ::
        scan "(string text)") .between := by
  have modifiers :
      Scans .between "internal static byte[] " (scan "internal static byte[]")
        .between := Scans.of_scan (by decide +kernel)
  have parameters :
      Scans .between "(string text)" (scan "(string text)") .between :=
    Scans.of_scan (by decide +kernel)
  have named : Code.isIdentifier ("EncodeText" ++ label) = true :=
    isIdentifier_append (by decide) (parts_of_isIdentifier identifier)
  have whole :=
    (modifiers.append_reads (reads_word named)).scans parameters (by decide)
  have text :
      "internal static byte[] " ++ ("EncodeText" ++ label) =
        "internal static byte[] EncodeText" ++ label := by
    rw [← String.append_assoc]
    rfl
  rw [text] at whole
  simp only [List.append_assoc, List.singleton_append] at whole
  exact whole

theorem scans_loopOpening :
    ∀ line ∈ (decoderOpening "").drop 2,
      Scans .between line.2 (scan line.2) .between := by
  simp only [decoderOpening, List.drop_succ_cons, List.drop_zero,
    List.forall_mem_cons]
  refine ⟨?_, ?_, ?_, ?_, ?_, ?_, ?_, fun _ member => by cases member⟩ <;>
    exact Scans.of_complete (by decide +kernel)

theorem scans_loopClosing :
    ∀ line ∈ decoderClosing,
      Scans .between line.2 (scan line.2) .between := by
  simp only [decoderClosing, List.forall_mem_cons]
  refine ⟨?_, ?_, ?_, ?_, ?_, fun _ member => by cases member⟩ <;>
    exact Scans.of_complete (by decide +kernel)

theorem readMethod_decoderSource (ranges : List GlyphRange)
    (identifier : Code.isIdentifier label = true) :
    readMethod (scan (decoderSource label ranges)) =
      some (methodOf label ranges) := by
  have headed :
      Scans .between (Code.empty.line Code.memberIndent Code.header).text []
        .between := scans_codeHeader (fun _ => rfl) Code.memberIndent
  have signed :=
    scans_codeLine headed Code.memberIndent (scans_signature identifier).reads
  have openingLines :
      ((decoderOpening "").drop 2).map Prod.snd = loopOpening := rfl
  have closingLines : decoderClosing.map Prod.snd = loopClosing := rfl
  have opened := scans_writeLines signed scans_loopOpening
  have whole :=
    scans_writeLines (scans_cascade identifier opened ranges)
      scans_loopClosing
  rw [openingLines, closingLines] at whole
  have scanned := (scans_codeBlank (scans_codeBlank whole)).scan_eq
  simp only [List.append_assoc, List.nil_append, List.cons_append] at scanned
  have text :
      writeLines (decoderOpening label) .empty =
        writeLines ((decoderOpening "").drop 2)
          ((Code.empty.line Code.memberIndent Code.header).line
            Code.memberIndent
            ("internal static byte[] EncodeText" ++ label ++
              "(string text)")) := by
    simp only [writeLines, decoderOpening, List.drop_succ_cons,
      List.drop_zero, List.foldl_cons]
  rw [decoderSource, text, scanned]
  exact readMethod_tokens label ranges

end FontCompiler.Encoder
