import FontCompiler.Code
import FontCompiler.Proofs.Text.Digits

/-!
# Tokens of generated code

Generated code is read by its tokens, so that nothing depends on how it is laid
out.  The scanner goes through the characters one by one and keeps a mode,
which says what an unfinished token holds.

`Scans` says what a text does to the scanner, whatever follows it, and `Reads`
says which tokens a text has that is followed by something that cannot belong
to its last token.  Texts are put together by `Scans.append` and
`Reads.scans`.
-/

namespace FontCompiler.Generated

/-- A token of generated code. -/
inductive Token
  /-- An identifier or a keyword. -/
  | word (text : String)
  /-- A numeral with its prefix and its suffix. -/
  | number (text : String)
  /-- The content of a string literal. -/
  | string (content : String)
  /-- The content of a character literal. -/
  | unit (content : String)
  | symbol (char : Char)
  /-- A character that cannot stand where it does. -/
  | stray (char : Char)
  deriving DecidableEq, Repr

/-- Whether a character ends a line. -/
def isLineBreak (char : Char) : Bool :=
  char == '\n' || char == '\r' || char == '\u0085' || char == '\u2028' || char == '\u2029'

/-- Whether a character only separates tokens. -/
def isSeparator (char : Char) : Bool :=
  char == ' ' || char == '\t' || isLineBreak char

/-- Whether a character may open a number. -/
def isNumberStart (char : Char) : Bool :=
  '0' ≤ char && char ≤ '9'

/-- Whether a character may stand in a number. -/
def isNumberPart (char : Char) : Bool :=
  Code.isIdentifierPart char || char == '.'

/-- Where the scanner stands; what it has read of a token is kept latest first. -/
inductive Mode
  | between
  | word (read : List Char)
  | number (read : List Char)
  | string (read : List Char)
  /-- Behind a backslash in a string. -/
  | escape (read : List Char)
  | unit (read : List Char)
  /-- Behind a slash, which may open a comment. -/
  | slash
  | comment
  deriving DecidableEq, Repr

/-- What a character does that stands between tokens. -/
def start (char : Char) : List Token × Mode :=
  if isSeparator char then ([], .between)
  else if Code.isIdentifierStart char then ([], .word [char])
  else if isNumberStart char then ([], .number [char])
  else if char = '"' then ([], .string [])
  else if char = '\'' then ([], .unit [])
  else if char = '/' then ([], .slash)
  else ([.symbol char], .between)

/-- The text of an unfinished token. -/
def textOf (read : List Char) : String :=
  String.ofList read.reverse

/-- The token that the end of its text finishes. -/
def Mode.pending : Mode → List Token
  | .between => []
  | .word read => [.word (textOf read)]
  | .number read => [.number (textOf read)]
  | .string _ => [.stray '"']
  | .escape _ => [.stray '\\']
  | .unit _ => [.stray '\'']
  | .slash => [.symbol '/']
  | .comment => []

/-- What a character does behind a finished token. -/
def finishThen (mode : Mode) (char : Char) : List Token × Mode :=
  (mode.pending ++ (start char).1, (start char).2)

/-- What a character does in a mode: the tokens that are complete, and the mode behind it. -/
def step (mode : Mode) (char : Char) : List Token × Mode :=
  match mode with
  | .between => start char
  | .word read =>
    if Code.isIdentifierPart char then ([], .word (char :: read)) else finishThen mode char
  | .number read =>
    if isNumberPart char then ([], .number (char :: read)) else finishThen mode char
  | .string read =>
    if char = '"' then ([.string (textOf read)], .between)
    else if char = '\\' then ([], .escape read)
    else if isLineBreak char then ([.stray char], .between)
    else ([], .string (char :: read))
  | .escape read =>
    if char = '"' ∨ char = '\\' then ([], .string (char :: read))
    else ([.stray char], .string read)
  | .unit read =>
    if char = '\'' then ([.unit (textOf read)], .between)
    else if isLineBreak char then ([.stray char], .between)
    else ([], .unit (char :: read))
  | .slash => if char = '/' then ([], .comment) else finishThen mode char
  | .comment => if isLineBreak char then ([], .between) else ([], .comment)

/-- The tokens of characters that are met in a mode. -/
def scanFrom : Mode → List Char → List Token
  | mode, [] => mode.pending
  | mode, char :: chars => (step mode char).1 ++ scanFrom (step mode char).2 chars

/-- The tokens of a text. -/
def scan (text : String) : List Token :=
  scanFrom .between text.toList

/-! ## What a text does to the scanner -/

/-- A text gives tokens and changes the mode, whatever follows it. -/
def Scans (before : Mode) (text : String) (tokens : List Token) (after : Mode) : Prop :=
  ∀ rest, scanFrom before (text.toList ++ rest) = tokens ++ scanFrom after rest

/-- The tokens that a text completes, and the mode behind it. -/
def run : Mode → List Char → List Token × Mode
  | mode, [] => ([], mode)
  | mode, char :: chars =>
    ((step mode char).1 ++ (run (step mode char).2 chars).1, (run (step mode char).2 chars).2)

theorem scanFrom_append (mode : Mode) (chars rest : List Char) :
    scanFrom mode (chars ++ rest) =
      (run mode chars).1 ++ scanFrom (run mode chars).2 rest := by
  induction chars generalizing mode with
  | nil => rfl
  | cons char chars ih =>
      simp only [List.cons_append, scanFrom, run, ih, List.append_assoc]

namespace Scans

variable {before middle after : Mode} {first second text : String}
  {tokens more : List Token}

theorem of_run
    (scanned : run before text.toList = (tokens, after)) :
    Scans before text tokens after := by
  intro rest
  rw [scanFrom_append, scanned]

theorem of_chars {chars : List Char}
    (scanned : run before chars = (tokens, after)) :
    Scans before (String.ofList chars) tokens after := by
  apply of_run
  rw [String.toList_ofList]
  exact scanned

/-- Two literals with the same tokens, the second of which is complete. -/
theorem of_scan {chars expected : List Char}
    (scanned : run before chars = (scanFrom .between expected, after)) :
    Scans before (String.ofList chars) (scan (String.ofList expected))
      after := by
  apply of_chars
  rw [scan, String.toList_ofList]
  exact scanned

/-- A literal that ends between tokens has the tokens that it has alone. -/
theorem of_complete {chars : List Char}
    (complete : run .between chars = (scanFrom .between chars, .between)) :
    Scans .between (String.ofList chars) (scan (String.ofList chars))
      .between :=
  of_scan complete

theorem append
    (one : Scans before first tokens middle)
    (other : Scans middle second more after) :
    Scans before (first ++ second) (tokens ++ more) after := by
  intro rest
  rw [String.toList_append, List.append_assoc, one, other, List.append_assoc]

/-- A text that is read to its end has its own tokens. -/
theorem scan_eq (scanned : Scans .between text tokens .between) :
    scan text = tokens := by
  have whole := scanned []
  simpa [scan, scanFrom, Mode.pending] using whole

end Scans

/-- What can follow a word or a number without belonging to it. -/
def Ends (rest : List Char) : Prop :=
  ∀ char ∈ rest.head?, isNumberPart char = false

/-- A text has these tokens if it is followed by something that cannot continue it. -/
def Reads (text : String) (tokens : List Token) : Prop :=
  ∀ rest, Ends rest →
    scanFrom .between (text.toList ++ rest) = tokens ++ scanFrom .between rest

/-- Whether a text opens with a character that cannot stand in a word or a number. -/
def opensApart (text : String) : Bool :=
  match text.toList with
  | [] => false
  | char :: _ => !isNumberPart char

theorem ends_of_opensApart {text : String}
    (apart : opensApart text = true) (rest : List Char) :
    Ends (text.toList ++ rest) := by
  unfold opensApart at apart
  split at apart
  · cases apart
  · rename_i opened
    intro char here
    rw [opened] at here
    cases here
    simpa using apart

theorem Scans.reads {text : String} {tokens : List Token}
    (scanned : Scans .between text tokens .between) :
    Reads text tokens :=
  fun rest _ => scanned rest

theorem Scans.append_reads
    {first second : String} {tokens more : List Token}
    (one : Scans .between first tokens .between)
    (other : Reads second more) :
    Reads (first ++ second) (tokens ++ more) := by
  intro rest ends
  rw [String.toList_append, List.append_assoc, one, other rest ends,
    List.append_assoc]

/-- A text that stands apart ends what was read before it. -/
theorem Reads.scans
    {first second : String} {tokens more : List Token} {after : Mode}
    (one : Reads first tokens)
    (other : Scans .between second more after)
    (apart : opensApart second = true) :
    Scans .between (first ++ second) (tokens ++ more) after := by
  intro rest
  rw [String.toList_append, List.append_assoc,
    one _ (ends_of_opensApart apart rest), other, List.append_assoc]

/-! ## Words and numbers -/

theorem isNumberPart_of_isIdentifierPart {char : Char}
    (part : Code.isIdentifierPart char = true) :
    isNumberPart char = true := by
  simp [isNumberPart, part]

theorem scanFrom_ends {mode : Mode} {rest : List Char}
    (unfinished : (∃ read, mode = .word read) ∨ ∃ read, mode = .number read)
    (ends : Ends rest) :
    scanFrom mode rest = mode.pending ++ scanFrom .between rest := by
  cases rest with
  | nil => simp [scanFrom, Mode.pending]
  | cons char rest =>
      have apart : isNumberPart char = false := ends char rfl
      have noPart : Code.isIdentifierPart char = false := by
        cases part : Code.isIdentifierPart char with
        | false => rfl
        | true => rw [isNumberPart_of_isIdentifierPart part] at apart; cases apart
      rcases unfinished with ⟨read, rfl⟩ | ⟨read, rfl⟩ <;>
        simp [scanFrom, step, finishThen, apart, noPart]

theorem scanFrom_word (read chars rest : List Char)
    (parts : chars.all Code.isIdentifierPart = true) :
    scanFrom (.word read) (chars ++ rest) =
      scanFrom (.word (chars.reverse ++ read)) rest := by
  induction chars generalizing read with
  | nil => rfl
  | cons char chars ih =>
      obtain ⟨part, others⟩ : Code.isIdentifierPart char = true ∧
          chars.all Code.isIdentifierPart = true := by simpa using parts
      simp [scanFrom, step, part, ih (char :: read) others]

theorem scanFrom_number (read chars rest : List Char)
    (parts : chars.all isNumberPart = true) :
    scanFrom (.number read) (chars ++ rest) =
      scanFrom (.number (chars.reverse ++ read)) rest := by
  induction chars generalizing read with
  | nil => rfl
  | cons char chars ih =>
      obtain ⟨part, others⟩ : isNumberPart char = true ∧
          chars.all isNumberPart = true := by simpa using parts
      simp [scanFrom, step, part, ih (char :: read) others]

theorem not_start_of_isSeparator {char : Char}
    (separates : isSeparator char = true) :
    Code.isIdentifierStart char = false ∧ isNumberStart char = false := by
  simp only [isSeparator, isLineBreak, Bool.or_eq_true, beq_iff_eq]
    at separates
  rcases separates with (rfl | rfl) | ((((rfl | rfl) | rfl) | rfl) | rfl) <;>
    decide

theorem not_isIdentifierStart_of_isNumberStart {char : Char}
    (digit : isNumberStart char = true) :
    Code.isIdentifierStart char = false := by
  obtain ⟨low, high⟩ : '0' ≤ char ∧ char ≤ '9' := by
    simpa [isNumberStart] using digit
  have belowUpper : ¬ 'A' ≤ char := fun above =>
    absurd (Char.le_trans above high) (by decide)
  have belowLower : ¬ 'a' ≤ char := fun above =>
    absurd (Char.le_trans above high) (by decide)
  have noUnderscore : char ≠ '_' := by
    rintro rfl
    exact absurd high (by decide)
  simp [Code.isIdentifierStart, belowUpper, belowLower, noUnderscore]

theorem reads_word {text : String}
    (identifier : Code.isIdentifier text = true) :
    Reads text [.word text] := by
  intro rest ends
  unfold Code.isIdentifier at identifier
  split at identifier
  · cases identifier
  · rename_i first others opened
    obtain ⟨opens, parts⟩ : Code.isIdentifierStart first = true ∧
        others.all Code.isIdentifierPart = true := by simpa using identifier
    have apart : isSeparator first = false := by
      cases separates : isSeparator first with
      | false => rfl
      | true =>
          rw [(not_start_of_isSeparator separates).1] at opens
          cases opens
    have whole : textOf (others.reverse ++ [first]) = text := by
      rw [textOf, ← String.ofList_toList (s := text), opened]
      simp
    rw [opened]
    simp only [List.cons_append, scanFrom, step, start, apart, opens]
    simp only [Bool.false_eq_true, if_false, if_true, List.nil_append]
    rw [scanFrom_word _ _ _ parts, scanFrom_ends (.inl ⟨_, rfl⟩) ends,
      Mode.pending, whole, List.singleton_append]

/-- A number opens with a digit, and what follows may stand in a number. -/
def isNumeral (text : String) : Bool :=
  match text.toList with
  | [] => false
  | first :: others => isNumberStart first && others.all isNumberPart

theorem reads_number {text : String} (numeral : isNumeral text = true) :
    Reads text [.number text] := by
  intro rest ends
  unfold isNumeral at numeral
  split at numeral
  · cases numeral
  · rename_i first others opened
    obtain ⟨opens, parts⟩ : isNumberStart first = true ∧
        others.all isNumberPart = true := by simpa using numeral
    have apart : isSeparator first = false := by
      cases separates : isSeparator first with
      | false => rfl
      | true =>
          rw [(not_start_of_isSeparator separates).2] at opens
          cases opens
    have noWord := not_isIdentifierStart_of_isNumberStart opens
    have whole : textOf (others.reverse ++ [first]) = text := by
      rw [textOf, ← String.ofList_toList (s := text), opened]
      simp
    rw [opened]
    simp only [List.cons_append, scanFrom, step, start, apart, noWord, opens]
    simp only [Bool.false_eq_true, if_false, if_true, List.nil_append]
    rw [scanFrom_number _ _ _ parts, scanFrom_ends (.inr ⟨_, rfl⟩) ends,
      Mode.pending, whole, List.singleton_append]

/-! ## Identifiers -/

theorem parts_of_isIdentifier {text : String}
    (identifier : Code.isIdentifier text = true) :
    ∀ char ∈ text.toList, Code.isIdentifierPart char = true := by
  unfold Code.isIdentifier at identifier
  split at identifier
  · cases identifier
  · rename_i first others opened
    rw [Bool.and_eq_true, List.all_eq_true] at identifier
    rw [opened, List.forall_mem_cons]
    exact ⟨by simp [Code.isIdentifierPart, identifier.1], identifier.2⟩

theorem isIdentifier_append {first second : String}
    (opens : Code.isIdentifier first = true)
    (parts : ∀ char ∈ second.toList, Code.isIdentifierPart char = true) :
    Code.isIdentifier (first ++ second) = true := by
  unfold Code.isIdentifier at *
  rw [String.toList_append]
  split at opens
  · cases opens
  · rename_i first others opened
    rw [Bool.and_eq_true] at opens
    rw [opened]
    simp only [List.cons_append, List.all_append, Bool.and_eq_true,
      List.all_eq_true.mpr parts, and_true]
    exact opens

/-! ## The numerals of numbers -/

theorem isNumberStart_digitChar :
    ∀ digit < 10, isNumberStart digit.digitChar = true := by
  decide

theorem isNumeral_toDigits (number : Nat) {others : List Char}
    (parts : others.all isNumberPart = true) :
    isNumeral (String.ofList (Nat.toDigits 10 number ++ others)) = true := by
  have digits :=
    Text.forall_mem_toDigits (by decide) (fun char => isNumberStart char = true)
      isNumberStart_digitChar number
  have nonempty : Nat.toDigits 10 number ≠ [] := Nat.toDigits_ne_nil
  rcases List.exists_cons_of_ne_nil nonempty with ⟨first, more, shape⟩
  rw [shape, List.forall_mem_cons] at digits
  have moreParts : more.all isNumberPart = true := by
    rw [List.all_eq_true]
    intro char member
    have digit := digits.2 char member
    simp only [isNumberStart] at digit
    simp [isNumberPart, Code.isIdentifierPart, digit]
  rw [shape]
  simp [isNumeral, digits.1, List.all_append, moreParts, parts]

theorem isNumeral_prefixed {digits : String}
    (parts : ∀ char ∈ digits.toList, isNumberPart char = true) :
    isNumeral ("0x" ++ digits) = true := by
  have opened :
      ("0x" ++ digits).toList = '0' :: 'x' :: digits.toList := by
    simp
  have inner : isNumberPart 'x' = true := by decide
  have opens : isNumberStart '0' = true := by decide
  simp only [isNumeral, opened, opens, List.all_cons, inner, Bool.true_and,
    List.all_eq_true]
  exact parts

theorem isNumeral_upperHex (width number : Nat) :
    isNumeral ("0x" ++ Text.upperHex width number) = true :=
  isNumeral_prefixed
    (Text.forall_mem_upperHex
      (by decide : ∀ digit < 16, isNumberPart digit.digitChar.toUpper = true)
      width number)

theorem isNumeral_lowerHex (width number : Nat) :
    isNumeral ("0x" ++ Text.lowerHex width number) = true :=
  isNumeral_prefixed
    (Text.forall_mem_lowerHex
      (by decide : ∀ digit < 16, isNumberPart digit.digitChar = true)
      width number)

/-- The number that a hexadecimal numeral stands for. -/
def hexNumeral? (numeral : String) : Option Nat :=
  match numeral.toList with
  | '0' :: 'x' :: digit :: digits => Text.hexValue? (digit :: digits)
  | _ => none

theorem hexNumeral?_prefixed {digits : String} {number : Nat}
    (nonempty : digits.toList ≠ [])
    (read : Text.hexValue? digits.toList = some number) :
    hexNumeral? ("0x" ++ digits) = some number := by
  rcases List.exists_cons_of_ne_nil nonempty with ⟨digit, others, shape⟩
  have opened :
      ("0x" ++ digits).toList = '0' :: 'x' :: digit :: others := by
    simp [shape]
  rw [hexNumeral?, opened]
  rwa [shape] at read

theorem hexNumeral?_lowerHex (width number : Nat) :
    hexNumeral? ("0x" ++ Text.lowerHex width number) = some number :=
  hexNumeral?_prefixed (Text.lowerHex_ne_nil width number)
    (Text.hexValue?_lowerHex width number)

theorem hexNumeral?_upperHex (width number : Nat) :
    hexNumeral? ("0x" ++ Text.upperHex width number) = some number :=
  hexNumeral?_prefixed (Text.upperHex_ne_nil width number)
    (Text.hexValue?_upperHex width number)

/-! ## Strings, blanks and comments -/

/-- Whether a text can stand in a string literal as it is. -/
def Plain (text : String) : Prop :=
  ∀ char ∈ text.toList, char ≠ '"' ∧ char ≠ '\\' ∧ isLineBreak char = false

instance (text : String) : Decidable (Plain text) :=
  List.decidableBAll
    (fun char => char ≠ '"' ∧ char ≠ '\\' ∧ isLineBreak char = false)
    text.toList

theorem Plain.append {first second : String}
    (one : Plain first) (other : Plain second) : Plain (first ++ second) := by
  rw [Plain, String.toList_append, List.forall_mem_append]
  exact ⟨one, other⟩

theorem plain_of_isIdentifier {text : String}
    (identifier : Code.isIdentifier text = true) : Plain text := by
  intro char member
  have part := parts_of_isIdentifier identifier char member
  refine ⟨?_, ?_, ?_⟩
  · rintro rfl
    exact absurd part (by decide)
  · rintro rfl
    exact absurd part (by decide)
  · cases breaks : isLineBreak char with
    | false => rfl
    | true =>
        simp only [isLineBreak, Bool.or_eq_true, beq_iff_eq] at breaks
        rcases breaks with (((rfl | rfl) | rfl) | rfl) | rfl <;>
          exact absurd part (by decide)

theorem scanFrom_string (read chars rest : List Char)
    (plain : ∀ char ∈ chars,
      char ≠ '"' ∧ char ≠ '\\' ∧ isLineBreak char = false) :
    scanFrom (.string read) (chars ++ rest) =
      scanFrom (.string (chars.reverse ++ read)) rest := by
  induction chars generalizing read with
  | nil => rfl
  | cons char chars ih =>
      rcases List.forall_mem_cons.mp plain with
        ⟨⟨noQuote, noEscape, noBreak⟩, others⟩
      simp [scanFrom, step, noQuote, noEscape, noBreak,
        ih (char :: read) others]

theorem scans_quote (read : List Char) :
    Scans (.string read) "\"" [.string (textOf read)] .between :=
  fun _ => rfl

theorem scans_plain {text : String} (plain : Plain text) (read : List Char) :
    Scans (.string read) text [] (.string (text.toList.reverse ++ read)) :=
  fun rest => scanFrom_string read text.toList rest plain

@[simp]
theorem textOf_reverse (text : String) :
    textOf (text.toList.reverse ++ []) = text := by
  simp [textOf]

/-- The content of a literal that was read in three pieces. -/
theorem textOf_reverse_reverse_reverse (first second third : String) :
    textOf (third.toList.reverse ++
        (second.toList.reverse ++ (first.toList.reverse ++ []))) =
      first ++ second ++ third := by
  apply String.toList_injective
  simp [textOf]

theorem scans_quoted {text : String} (plain : Plain text) :
    Scans .between ("\"" ++ text ++ "\"") [.string text] .between := by
  have opens : Scans .between "\"" [] (.string []) := fun _ => rfl
  have whole := (opens.append (scans_plain plain [])).append (scans_quote _)
  rwa [textOf_reverse] at whole

theorem scanFrom_unit (read chars rest : List Char)
    (plain : ∀ char ∈ chars, char ≠ '\'' ∧ isLineBreak char = false) :
    scanFrom (.unit read) (chars ++ rest) =
      scanFrom (.unit (chars.reverse ++ read)) rest := by
  induction chars generalizing read with
  | nil => rfl
  | cons char chars ih =>
      rcases List.forall_mem_cons.mp plain with ⟨⟨noQuote, noBreak⟩, others⟩
      simp [scanFrom, step, noQuote, noBreak, ih (char :: read) others]

/-- A text between single quotes is a character literal, escapes and all. -/
theorem scans_unit {text : String}
    (plain : ∀ char ∈ text.toList, char ≠ '\'' ∧ isLineBreak char = false) :
    Scans .between ("'" ++ text ++ "'") [.unit text] .between := by
  have opens : Scans .between "'" [] (.unit []) := fun _ => rfl
  have inside :
      Scans (.unit []) text [] (.unit (text.toList.reverse ++ [])) :=
    fun rest => scanFrom_unit [] text.toList rest plain
  have closes (read : List Char) :
      Scans (.unit read) "'" [.unit (textOf read)] .between := fun _ => rfl
  have whole := (opens.append inside).append (closes _)
  rwa [textOf_reverse] at whole

theorem scans_blanks (count : Nat) :
    Scans .between (Code.blanks count) [] .between := by
  intro rest
  induction count with
  | zero => simp [Code.blanks]
  | succ count ih =>
      simp only [Code.blanks, List.replicate_succ, String.toList_ofList,
        List.cons_append, scanFrom] at ih ⊢
      exact ih

theorem scans_lineEnd : Scans .between "\n" [] .between :=
  fun _ => rfl

theorem scans_openBrace : Scans .between "\x7b" [.symbol '{'] .between :=
  fun _ => rfl

theorem scans_closeBrace : Scans .between "\x7d" [.symbol '}'] .between :=
  fun _ => rfl

theorem scans_comma : Scans .between ", " [.symbol ','] .between :=
  fun _ => rfl

/-- A line has the tokens of its text, whose last word or number it ends. -/
theorem scans_line (indent : Nat) {text : String} {tokens : List Token}
    (read : Reads text tokens) :
    Scans .between (Code.blanks indent ++ text ++ "\n") tokens .between := by
  have whole :=
    ((scans_blanks indent).append_reads read).scans scans_lineEnd (by decide)
  rwa [List.nil_append, List.append_nil] at whole

/-- The comment that opens every generated member has no tokens. -/
theorem scans_header :
    Scans .between (Code.header ++ "\n") [] .between := by
  have comment : Scans .between Code.header [] .comment :=
    Scans.of_chars (by decide +kernel)
  have lineEnd : Scans .comment "\n" [] .between := fun _ => rfl
  exact comment.append lineEnd

/-! ## Lines of code -/

variable {code : Code} {tokens more : List Token}

theorem scans_codeLine
    (written : Scans .between code.text tokens .between)
    (indent : Nat) {text : String}
    (read : Reads text more) :
    Scans .between (code.line indent text).text (tokens ++ more) .between := by
  have whole := written.append (scans_line indent read)
  simpa [Code.line, Code.indent, Code.push, Code.blank, String.append_assoc]
    using whole

theorem scans_codeHeader
    (written : Scans .between code.text tokens .between) (indent : Nat) :
    Scans .between (code.line indent Code.header).text tokens .between := by
  have whole := written.append ((scans_blanks indent).append scans_header)
  simpa [Code.line, Code.indent, Code.push, Code.blank, String.append_assoc]
    using whole

theorem scans_codeBlank
    (written : Scans .between code.text tokens .between) :
    Scans .between code.blank.text tokens .between := by
  simpa [Code.blank, Code.push] using written.append scans_lineEnd

/-! ## Expected tokens -/

/-- The tokens behind expected ones, if these are there. -/
def expect : (expected tokens : List Token) → Option (List Token)
  | [], tokens => some tokens
  | _ :: _, [] => none
  | token :: expected, other :: tokens =>
    if other = token then expect expected tokens else none

@[simp]
theorem expect_append (expected rest : List Token) :
    expect expected (expected ++ rest) = some rest := by
  induction expected with
  | nil => rfl
  | cons token expected ih => simp [expect, ih]

@[simp]
theorem expect_self (expected : List Token) :
    expect expected expected = some [] := by
  simpa using expect_append expected []

/-- Reads a word. -/
def readWord : List Token → Option (String × List Token)
  | .word text :: rest => some (text, rest)
  | _ => none

/-- Reads a hexadecimal number. -/
def readHex : List Token → Option (Nat × List Token)
  | .number numeral :: rest => do
    let number ← hexNumeral? numeral
    return (number, rest)
  | _ => none

@[simp]
theorem readWord_cons (text : String) (rest : List Token) :
    readWord (.word text :: rest) = some (text, rest) := rfl

@[simp]
theorem readHex_lowerHex (width number : Nat) (rest : List Token) :
    readHex (.number ("0x" ++ Text.lowerHex width number) :: rest) =
      some (number, rest) := by
  simp [readHex, hexNumeral?_lowerHex]

end FontCompiler.Generated
