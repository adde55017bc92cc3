import FontCompiler.Proofs.Factory.Execution

/-!
# A factory rebuilds its graph

The text of a factory is scanned, read as a list of statements, and run.  The
tokens of every piece of the text are those of the tree that stands for it, so
the whole text is read as the tree of its graph, and running that tree rebuilds
the graph.

The tree is only read back if no text in the graph ends its literal, and no
object hides another one under the same name.
-/

namespace FontCompiler.Factory

open FontCompiler.Graph Numeric Generated

/-! ## What stands in a graph -/

mutual

/-- The keys, names and strings of a graph. -/
def texts : Node → List String
  | .dictionary entries => entriesTexts entries
  | .stream entries _ => entriesTexts entries
  | .array items => itemsTexts items
  | .name text => [text]
  | .string text => [text]
  | .float _ => []
  | .integer _ => []
  | .boolean _ => []
  | .null => []

/-- The texts in the items of an array. -/
def itemsTexts : List Node → List String
  | [] => []
  | item :: items => texts item ++ itemsTexts items

/-- The keys of a dictionary and the texts under them. -/
def entriesTexts : List (String × Node) → List String
  | [] => []
  | (key, value) :: entries => key :: (texts value ++ entriesTexts entries)

end

mutual

/-- The single-precision numbers of a graph. -/
def singles : Node → List Binary32
  | .dictionary entries => entriesSingles entries
  | .stream entries _ => entriesSingles entries
  | .array items => itemsSingles items
  | .float value => [value]
  | .integer _ => []
  | .name _ => []
  | .string _ => []
  | .boolean _ => []
  | .null => []

/-- The singles in the items of an array. -/
def itemsSingles : List Node → List Binary32
  | [] => []
  | item :: items => singles item ++ itemsSingles items

/-- The singles in the entries of a dictionary. -/
def entriesSingles : List (String × Node) → List Binary32
  | [] => []
  | (_, value) :: entries => singles value ++ entriesSingles entries

end

/-! ## A graph that is written can be read -/

theorem isIdentifier_of_beginFrame {label property binding : String}
    {before after : State}
    (begun : beginFrame label property before = .ok (binding, after)) :
    Code.isIdentifier (Text.lowerFirst property) = true := by
  unfold beginFrame at begun
  cases identifier : Code.isIdentifier (Text.lowerFirst property) with
  | true => rfl
  | false => simp [identifier, State.stop] at begun

/-- An object is legible if its binding, its texts and everything below it are. -/
theorem legible_object {property : String} {entries : Dictionary}
    {payload : Option (List UInt8)}
    (identifier : Code.isIdentifier (Text.lowerFirst property) = true)
    (plain : Plain property)
    (inside :
      (∀ entry ∈ entries, Plain entry.1) ∧
        (∀ entry ∈ entries, Legible entry.1 entry.2) ∧
        ∀ declaration ∈ entriesDeclarations entries, declaration.Legible) :
    ∀ declaration ∈
        entriesDeclarations entries ++ [⟨property, entries, payload⟩],
      declaration.Legible := by
  rcases inside with ⟨keys, values, below⟩
  rw [List.forall_mem_append, List.forall_mem_singleton]
  exact ⟨below, ⟨identifier, plain, keys, values⟩⟩

mutual

/-- The node and all declarations at or below it are legible if the walk succeeds. -/
theorem legible_of_writeNode {label : String} (property : String)
    (nesting : Nat) (plain : Plain property) :
    ∀ (node : Node) (before after : State),
      writeNode label property nesting node before = .ok after →
      (∀ text ∈ texts node, Plain text) →
      (∀ number ∈ singles node, number.value.isFinite = true) →
      Legible property node ∧
        ∀ declaration ∈ declarations property node, declaration.Legible
  | .dictionary entries, before, after, written, clear, finite => by
      rw [writeNode] at written
      rcases exists_of_bind_ok written with ⟨⟨binding, opened⟩, begun, written⟩
      rcases exists_of_bind_ok written with ⟨body, bodyWritten, -⟩
      have identifier := isIdentifier_of_beginFrame begun
      rw [texts] at clear
      rw [singles] at finite
      have inside :=
        legible_of_writeEntries entries _ _ bodyWritten clear finite
      rw [Legible, declarations]
      exact ⟨identifier, legible_object identifier plain inside⟩
  | .stream entries payload, before, after, written, clear, finite => by
      rw [writeNode] at written
      rcases exists_of_bind_ok written with ⟨⟨binding, opened⟩, begun, written⟩
      rcases exists_of_bind_ok written with ⟨body, bodyWritten, -⟩
      have identifier := isIdentifier_of_beginFrame begun
      rw [texts] at clear
      rw [singles] at finite
      have inside :=
        legible_of_writeEntries entries _ _ bodyWritten clear finite
      rw [Legible, declarations]
      exact ⟨identifier, legible_object identifier plain inside⟩
  | .array items, before, after, written, clear, finite => by
      rw [writeNode] at written
      rcases exists_of_bind_ok written with ⟨body, bodyWritten, -⟩
      rw [texts] at clear
      rw [singles] at finite
      rw [Legible, declarations]
      exact legible_of_writeItems property nesting plain items _ _
        bodyWritten clear finite
  | .float value, before, after, written, clear, finite => by
      refine ⟨?_, by simp [declarations]⟩
      rw [Legible]
      exact finite value (by simp [singles])
  | .integer value, before, after, written, clear, finite => by
      refine ⟨?_, by simp [declarations]⟩
      rw [Legible]
      trivial
  | .name text, before, after, written, clear, finite => by
      refine ⟨?_, by simp [declarations]⟩
      rw [Legible]
      exact clear text (by simp [texts])
  | .string text, before, after, written, clear, finite => by
      refine ⟨?_, by simp [declarations]⟩
      rw [Legible]
      exact clear text (by simp [texts])
  | .boolean value, before, after, written, clear, finite => by cases written
  | .null, before, after, written, clear, finite => by cases written

theorem legible_of_writeItems {label : String} (property : String)
    (nesting : Nat) (plain : Plain property) :
    ∀ (items : List Node) (before after : State),
      writeItems label property nesting items before = .ok after →
      (∀ text ∈ itemsTexts items, Plain text) →
      (∀ number ∈ itemsSingles items, number.value.isFinite = true) →
      LegibleItems property items ∧
        ∀ declaration ∈ itemsDeclarations property items,
          declaration.Legible
  | [], before, after, written, clear, finite => by
      simp [LegibleItems, itemsDeclarations]
  | item :: items, before, after, written, clear, finite => by
      rw [writeItems] at written
      rcases exists_of_bind_ok written with ⟨middle, itemWritten, othersWritten⟩
      rw [itemsTexts, List.forall_mem_append] at clear
      rw [itemsSingles, List.forall_mem_append] at finite
      have first :=
        legible_of_writeNode property (nesting + 1) plain item _ _
          itemWritten clear.1 finite.1
      have others :=
        legible_of_writeItems property nesting plain items _ _
          othersWritten clear.2 finite.2
      rw [LegibleItems, itemsDeclarations, List.forall_mem_append]
      exact ⟨⟨first.1, others.1⟩, first.2, others.2⟩

theorem legible_of_writeEntries {label : String} :
    ∀ (entries : List (String × Node)) (before after : State),
      writeEntries label entries before = .ok after →
      (∀ text ∈ entriesTexts entries, Plain text) →
      (∀ number ∈ entriesSingles entries, number.value.isFinite = true) →
      (∀ entry ∈ entries, Plain entry.1) ∧
        (∀ entry ∈ entries, Legible entry.1 entry.2) ∧
        ∀ declaration ∈ entriesDeclarations entries, declaration.Legible
  | [], before, after, written, clear, finite => by
      simp [entriesDeclarations]
  | (key, value) :: entries, before, after, written, clear, finite => by
      rw [writeEntries] at written
      rcases exists_of_bind_ok written with
        ⟨middle, valueWritten, othersWritten⟩
      rw [entriesTexts, List.forall_mem_cons, List.forall_mem_append] at clear
      rw [entriesSingles, List.forall_mem_append] at finite
      rcases clear with ⟨plain, valueClear, othersClear⟩
      have first :=
        legible_of_writeNode key 0 plain value _ _ valueWritten valueClear
          finite.1
      rcases
          legible_of_writeEntries entries _ _ othersWritten othersClear
            finite.2 with
        ⟨keys, values, below⟩
      rw [entriesDeclarations, List.forall_mem_append]
      exact
        ⟨List.forall_mem_cons.mpr ⟨plain, keys⟩,
          List.forall_mem_cons.mpr ⟨first.1, values⟩, first.2, below⟩

end

/-! ## The text of a graph is read as its tree -/

theorem scans_reference {binding : String}
    (identifier : Code.isIdentifier binding = true) :
    Scans .between (reference binding)
      (Expression.reference binding).tokens .between := by
  have opening :
      Scans .between "document.CreateReference("
        [.word "document", .symbol '.', .word "CreateReference", .symbol '(']
        .between := fun _ => rfl
  have closing : Scans .between ")" [.symbol ')'] .between := fun _ => rfl
  exact
    (opening.append_reads (reads_word identifier)).scans closing (by decide)

theorem reads_number_tokens {negative : Bool} {numeral : String}
    (digits : isNumeral numeral = true) :
    Reads ((if negative then "-" else "") ++ numeral)
      (Expression.number negative numeral).tokens := by
  cases negative with
  | false => simpa [Expression.tokens] using reads_number digits
  | true =>
      have sign : Scans .between "-" [.symbol '-'] .between := fun _ => rfl
      simpa [Expression.tokens] using sign.append_reads (reads_number digits)

theorem isNumeral_fixedPlaces (places units : Nat) :
    isNumeral (fixedPlaces .binary32 places units ++ "f") = true := by
  let scaled := roundHalfEven (units * 10 ^ places) FloatFormat.binary32.one
  let fraction :=
    Text.padZeros places (Nat.toDigits 10 (scaled % 10 ^ places))
  have shape :
      fixedPlaces .binary32 places units ++ "f" =
        String.ofList (Nat.toDigits 10 (scaled / 10 ^ places) ++
          '.' :: (fraction ++ ['f'])) := by
    apply String.toList_injective
    simp [fixedPlaces, decimalDigits, DecimalStyle.zeros, Text.padZeros,
      fraction, scaled]
  have digits : ∀ char ∈ fraction, isNumberPart char = true :=
    Text.forall_mem_padZeros (by decide) places
      (Text.forall_mem_toDigits (by decide)
        (fun char => isNumberPart char = true)
        (by decide : ∀ digit < 10, isNumberPart digit.digitChar = true)
        (scaled % 10 ^ places))
  have point : isNumberPart '.' = true := by decide
  have suffix : isNumberPart 'f' = true := by decide
  rw [shape]
  apply isNumeral_toDigits
  simp [point, suffix, List.all_append, List.all_eq_true.mpr digits]

theorem reads_floatLiteral {number : Binary32} {negative : Bool} {units : Nat}
    (finite : number.value = .finite negative units) :
    Reads (floatLiteral number)
      (Expression.number negative (singleNumeral units)).tokens := by
  have text :
      floatLiteral number =
        (if negative then "-" else "") ++ singleNumeral units := by
    unfold floatLiteral singleNumeral
    rw [finite]
    exact String.append_assoc
  rw [text]
  exact reads_number_tokens (isNumeral_fixedPlaces 6 units)

theorem reads_decimalInt (value : Int) :
    Reads (decimalInt value)
      (Expression.number (value < 0) (decimalDigits value.natAbs)).tokens := by
  have numeral : isNumeral (decimalDigits value.natAbs) = true := by
    have digits := @isNumeral_toDigits value.natAbs [] rfl
    rwa [List.append_nil] at digits
  have text :
      decimalInt value =
        (if decide (value < 0) then "-" else "") ++
          decimalDigits value.natAbs := by
    simp only [decimalInt, decide_eq_true_eq]
  rw [text]
  exact reads_number_tokens numeral

theorem scans_itemEnd (outermost : Prop) [Decidable outermost] :
    Scans .between (if outermost then ",\n" else ", ") [.symbol ',']
      .between := by
  split
  · exact fun _ => rfl
  · exact scans_comma

theorem opensApart_itemEnd (outermost : Prop) [Decidable outermost] :
    opensApart (if outermost then ",\n" else ", ") = true := by
  split <;> decide

mutual

/-- The text at a place of use has the tokens of the expression there. -/
theorem reads_useSite (property : String) (nesting : Nat) :
    ∀ node : Node, Legible property node →
      Reads (useSite property nesting node)
        (expressionOf property nesting node).tokens
  | .dictionary entries, legible => by
      rw [Legible] at legible
      simpa only [useSite, expressionOf] using
        (scans_reference legible).reads
  | .stream entries payload, legible => by
      rw [Legible] at legible
      simpa only [useSite, expressionOf] using
        (scans_reference legible).reads
  | .array items, legible => by
      rw [Legible] at legible
      have inside := scans_itemsText property nesting items legible
      by_cases outermost : nesting = 0
      · have opening :
            Scans .between "new object[] \x7b\n"
              [.word "new", .word "object", .symbol '[', .symbol ']',
                .symbol '{'] .between := fun _ => rfl
        have whole :=
          ((opening.append inside).append (scans_blanks entryIndent)).append
            scans_closeBrace
        simpa [useSite, expressionOf, Expression.tokens, itemType, outermost]
          using whole.reads
      · have opening :
            Scans .between "new int[] \x7b "
              [.word "new", .word "int", .symbol '[', .symbol ']',
                .symbol '{'] .between := fun _ => rfl
        have whole := (opening.append inside).append scans_closeBrace
        simpa [useSite, expressionOf, Expression.tokens, itemType, outermost]
          using whole.reads
  | .float value, legible => by
      rw [Legible] at legible
      rcases exists_finite legible with ⟨negative, units, finite⟩
      simpa only [useSite, expressionOf, finite] using
        reads_floatLiteral finite
  | .integer value, _ => by
      simpa only [useSite, expressionOf] using reads_decimalInt value.toInt
  | .name text, legible => by
      rw [Legible] at legible
      have opening :
          Scans .between "new Name(\""
            [.word "new", .word "Name", .symbol '('] (.string []) :=
        fun _ => rfl
      have closing (read : List Char) :
          Scans (.string read) "\")"
            [.string (textOf read), .symbol ')'] .between := fun _ => rfl
      have whole :=
        (opening.append (scans_plain legible [])).append (closing _)
      rw [textOf_reverse] at whole
      rw [useSite, expressionOf]
      exact whole.reads
  | .string text, legible => by
      rw [Legible] at legible
      rw [useSite, expressionOf]
      exact (scans_quoted legible).reads
  | .boolean value, legible => by
      rw [Legible] at legible
      exact legible.elim
  | .null, legible => by
      rw [Legible] at legible
      exact legible.elim

theorem scans_itemsText (property : String) (nesting : Nat) :
    ∀ items : List Node, LegibleItems property items →
      Scans .between (itemsText property nesting items)
        (itemsTokens (itemExpressions property nesting items)) .between
  | [], _ => by
      rw [itemsText, itemExpressions, itemsTokens]
      exact fun _ => rfl
  | item :: items, legible => by
      rw [LegibleItems] at legible
      have indent :
          Scans .between
            (if nesting = 0 then Code.blanks itemIndent else "") []
            .between := by
        split
        · exact scans_blanks itemIndent
        · exact fun _ => rfl
      have first := reads_useSite property (nesting + 1) item legible.1
      have others := scans_itemsText property nesting items legible.2
      have whole :=
        ((indent.append_reads first).scans (scans_itemEnd (nesting = 0))
          (opensApart_itemEnd _)).append others
      simpa [itemsText, itemExpressions, itemsTokens] using whole

end

theorem scans_entriesText (entries : List (String × Node))
    (keys : ∀ entry ∈ entries, Plain entry.1)
    (values : ∀ entry ∈ entries, Legible entry.1 entry.2) :
    Scans .between (entriesText entries)
      (entriesTokens (entryExpressions entries)) .between := by
  induction entries with
  | nil => exact fun _ => rfl
  | cons entry entries ih =>
      rcases entry with ⟨key, value⟩
      rcases List.forall_mem_cons.mp keys with ⟨plain, otherKeys⟩
      rcases List.forall_mem_cons.mp values with ⟨legible, otherValues⟩
      have opening :
          Scans .between "\x7b \"" [.symbol '{'] (.string []) :=
        fun _ => rfl
      have behindKey (read : List Char) :
          Scans (.string read) "\", "
            [.string (textOf read), .symbol ','] .between := fun _ => rfl
      have closing :
          Scans .between " \x7d,\n" [.symbol '}', .symbol ','] .between :=
        fun _ => rfl
      have keyed :=
        (opening.append (scans_plain plain [])).append (behindKey _)
      rw [textOf_reverse] at keyed
      have line :=
        (((scans_blanks entryIndent).append keyed).append_reads
          (reads_useSite key 0 value legible)).scans closing (by decide)
      have whole := line.append (ih otherKeys otherValues)
      simpa [entriesText, entryExpressions, entriesTokens] using whole

/-! ## The text of a declaration is read as its statement -/

theorem scans_openingText {declaration : Declaration} {label : String}
    (identifier : Code.isIdentifier declaration.binding = true) :
    Scans .between
      (Declaration.openingText declaration.typeName declaration.binding)
      (declaration.statement label).openingTokens .between := by
  have typed : Code.isIdentifier declaration.typeName = true := by
    unfold Declaration.typeName
    split <;> decide
  have sameType :
      (declaration.statement label).typeName = declaration.typeName := by
    unfold Statement.typeName Declaration.typeName Declaration.statement
    cases declaration.payload <;> rfl
  have opening : Scans .between "var " [.word "var"] .between := fun _ => rfl
  have assigned :
      Scans .between " = new " [.symbol '=', .word "new"] .between :=
    fun _ => rfl
  have generic :
      Scans .between "(new Dictionary<string, object>"
        [.symbol '(', .word "new", .word "Dictionary", .symbol '<',
          .word "string", .symbol ',', .word "object", .symbol '>']
        .between := fun _ => rfl
  have bound :=
    (opening.append_reads (reads_word identifier)).scans assigned (by decide)
  have constructed :=
    (bound.append_reads (reads_word typed)).scans generic (by decide)
  have whole :=
    (scans_line Code.statementIndent constructed.reads).append
      (scans_line Code.statementIndent scans_openBrace.reads)
  rw [Statement.openingTokens, sameType]
  exact whole

theorem scans_bytes (payload : List UInt8) :
    Scans .between
      (String.join (payload.map fun byte =>
        "0x" ++ Text.upperHex 2 byte.toNat ++ ", "))
      (bytesTokens (payload.map byteNumeral)) .between := by
  induction payload with
  | nil => exact fun _ => rfl
  | cons byte payload ih =>
      have first :=
        (reads_number (isNumeral_upperHex 2 byte.toNat)).scans scans_comma
          (by decide)
      have whole := first.append ih
      simpa [bytesTokens, byteNumeral] using whole

theorem scans_payloadText {label property : String} (payload : List UInt8)
    (plainLabel : Plain label) (plain : Plain property) :
    Scans .between (Declaration.payloadText label property payload)
      (payloadSource label property payload).tokens .between := by
  unfold Declaration.payloadText payloadSource
  split
  · have opening :
        Scans .between "new byte[] \x7b "
          [.word "new", .word "byte", .symbol '[', .symbol ']', .symbol '{']
          .between := fun _ => rfl
    have whole :=
      (opening.append (scans_bytes payload)).append scans_closeBrace
    simpa [payloadLiteral, PayloadSource.tokens] using whole
  · have dash : Plain "-" := by decide
    have suffix : Plain ".bin" := by decide
    exact scans_quoted (((plainLabel.append dash).append plain).append suffix)

theorem scans_closingText {label : String} {declaration : Declaration}
    (plainLabel : Plain label) (plain : Plain declaration.property) :
    Scans .between (declaration.closingText label)
      (declaration.statement label).closingTokens .between := by
  unfold Declaration.closingText Statement.closingTokens Declaration.statement
  cases payload : declaration.payload with
  | none =>
      have closing :
          Scans .between "\x7d);"
            [.symbol '}', .symbol ')', .symbol ';'] .between := fun _ => rfl
      have whole :=
        (scans_line Code.statementIndent closing.reads).append scans_lineEnd
      simpa [payload] using whole
  | some bytes =>
      have opening :
          Scans .between "\x7d, " [.symbol '}', .symbol ','] .between :=
        fun _ => rfl
      have closing :
          Scans .between ");\n\n\n" [.symbol ')', .symbol ';'] .between :=
        fun _ => rfl
      have whole :=
        (((scans_blanks Code.statementIndent).append opening).append
          (scans_payloadText bytes plainLabel plain)).append closing
      simpa [payload] using whole

theorem scans_declaration {label : String} {declaration : Declaration}
    (plainLabel : Plain label) (legible : declaration.Legible) :
    Scans .between (declaration.text label)
      (declaration.statement label).tokens .between := by
  have opening := @scans_openingText declaration label legible.binding
  have entries :=
    scans_entriesText declaration.entries legible.keys legible.values
  have closing := scans_closingText plainLabel legible.property
  have whole := (opening.append entries).append closing
  rw [List.append_assoc] at whole
  exact whole

theorem scans_declarationsText {label : String}
    {declared : List Declaration} (plainLabel : Plain label)
    (legible : ∀ declaration ∈ declared, declaration.Legible) :
    Scans .between (declarationsText label declared)
      (statementsTokens (declared.map (·.statement label))) .between := by
  induction declared with
  | nil => exact fun _ => rfl
  | cons declaration declared ih =>
      rcases List.forall_mem_cons.mp legible with ⟨own, others⟩
      have whole := (scans_declaration plainLabel own).append (ih others)
      simpa [declarationsText, statementsTokens] using whole

/-! ## The text of a factory is read as its tree -/

theorem scans_prologueText {label : String}
    (identifier : Code.isIdentifier label = true) :
    Scans .between (prologueText label)
      [.word "internal", .word "static", .word "GeneralDict",
        .word ("Create" ++ label), .symbol '(', .word "Document",
        .word "document", .symbol ')', .symbol '{'] .between := by
  have modifiers :
      Scans .between "internal static GeneralDict "
        [.word "internal", .word "static", .word "GeneralDict"] .between :=
    Scans.of_chars (by decide +kernel)
  have parameters :
      Scans .between "(Document document)"
        [.symbol '(', .word "Document", .word "document", .symbol ')']
        .between := fun _ => rfl
  have named : Code.isIdentifier ("Create" ++ label) = true :=
    isIdentifier_append (by decide) (parts_of_isIdentifier identifier)
  have signature :=
    (modifiers.append_reads (reads_word named)).scans parameters (by decide)
  have whole :=
    (((scans_blanks Code.memberIndent).append scans_header).append
      (scans_line Code.memberIndent signature.reads)).append
      (scans_line Code.memberIndent scans_openBrace.reads)
  have text :
      prologueText label =
        Code.blanks Code.memberIndent ++ (Code.header ++ "\n") ++
          (Code.blanks Code.memberIndent ++
            ("internal static GeneralDict " ++ ("Create" ++ label) ++
              "(Document document)") ++ "\n") ++
          (Code.blanks Code.memberIndent ++ "\x7b" ++ "\n") := by
    have joined :
        "internal static GeneralDict " ++ ("Create" ++ label) =
          "internal static GeneralDict Create" ++ label := by
      rw [← String.append_assoc]
      rfl
    rw [joined]
    simp only [prologueText, String.append_assoc]
  rw [text]
  exact whole

theorem scans_epilogueText :
    Scans .between epilogueText
      [.word "return", .word rootProperty, .symbol ';', .symbol '}']
      .between := by
  have returned :
      Scans .between ("return " ++ rootProperty ++ ";")
        [.word "return", .word rootProperty, .symbol ';'] .between :=
    fun _ => rfl
  exact
    ((scans_line Code.statementIndent returned.reads).append
      (scans_line Code.memberIndent scans_closeBrace.reads)).append scans_lineEnd

/-- The text of a factory is read as the tree of its graph. -/
theorem readProgram_scan_factoryText {root : Dictionary} {label : String}
    (identifier : Code.isIdentifier label = true)
    (legible :
      ∀ declaration ∈ declarations rootProperty (.dictionary root),
        declaration.Legible) :
    readProgram (scan (factoryText root label)) =
      some (programOf root label) := by
  have whole :=
    ((scans_prologueText identifier).append
      (scans_declarationsText (plain_of_isIdentifier identifier)
        legible)).append scans_epilogueText
  have scanned :
      scan (factoryText root label) = (programOf root label).tokens :=
    whole.scan_eq
  rw [scanned, readProgram_tokens]

/--
A factory rebuilds its graph.  Let a graph be written under an identifier, with
no text that ends a literal, no infinite single or NaN, and no two objects of
one name.  Then its code is read back, every reference finds its object among
those that are bound already, and what is returned is the graph, with every
single rounded to the six places of its literal.
-/
theorem runFactory_rebuilds
    (root : Dictionary) (label : String) (product : Product)
    (identifier : Code.isIdentifier label = true)
    (compiled : compile root label = .ok product)
    (plain : ∀ text ∈ texts (.dictionary root), Plain text)
    (finite : ∀ number ∈ singles (.dictionary root), number.value.isFinite = true)
    (distinct :
      ((declarations rootProperty (.dictionary root)).map
        (·.binding)).Nodup) :
    runFactory product.sidecars product.source =
      some (rounded (.dictionary root)) := by
  rcases exists_walk_of_compile compiled with ⟨final, walked, -⟩
  have plainRoot : Plain rootProperty := plain_of_isIdentifier (by decide)
  rcases
      legible_of_writeNode rootProperty 0 plainRoot _ _ _ walked plain finite with
    ⟨-, legible⟩
  rw [compile_source compiled, compile_sidecars compiled, runFactory,
    readProgram_scan_factoryText identifier legible]
  exact run_programOf distinct legible

/-- A font with a dictionary in nested arrays, a single to be rounded, and payloads of both sizes. -/
def nestedFont : Dictionary :=
  [("Kids", .array [.array [.integer (-4), .dictionary
      [("Name", .name "F 1"), ("Width", .float ⟨0x3DCCCCCD⟩)]]]),
    ("ToUnicode", .stream [("Length", .integer 2)] [0, 255]),
    ("FontFile", .stream [] (List.replicate 256 7))]

theorem runFactory_rebuilds_nestedFont :
    ∃ product, compile nestedFont "Bold" = .ok product ∧
      runFactory product.sidecars product.source =
        some (rounded (.dictionary nestedFont)) := by
  have succeeds : (compile nestedFont "Bold").toBool = true := by
    decide +kernel
  cases compiled : compile nestedFont "Bold" with
  | error stop =>
      rw [compiled] at succeeds
      cases succeeds
  | ok product =>
      exact
        ⟨product, rfl,
          runFactory_rebuilds nestedFont "Bold" product (by decide) compiled
            (by decide +kernel) (by decide +kernel) (by decide +kernel)⟩

end FontCompiler.Factory
