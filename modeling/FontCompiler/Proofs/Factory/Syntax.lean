import FontCompiler.Proofs.Generated.Token

/-!
# The syntax of factories

A factory is a list of declarations and the name that it returns.  The module
gives the syntax trees, the tokens that a tree is written with, and a reader
for tokens.  The reader undoes the writing, whatever tokens follow.

The reader descends recursively and is bounded by a number of steps, for which
the number of tokens is enough.
-/

namespace FontCompiler.Factory

open Generated

/-! ## Trees and their tokens -/

/-- An expression at a place of use. -/
inductive Expression
  | number (negative : Bool) (numeral : String)
  | string (content : String)
  | name (content : String)
  /-- An array of objects if it is an outermost one, or of integers. -/
  | array (outermost : Bool) (items : List Expression)
  | reference (binding : String)
  deriving Repr

/-- The payload of a declared stream. -/
inductive PayloadSource
  | inline (numerals : List String)
  /-- The name of the file that holds the payload. -/
  | file (name : String)
  deriving DecidableEq, Repr

/-- A declaration as a statement; only streams have a payload. -/
structure Statement where
  binding : String
  entries : List (String × Expression)
  payload : Option PayloadSource
  deriving Repr

/-- A factory: its name, its statements, and the name that it returns. -/
structure Program where
  name : String
  statements : List Statement
  returned : String
  deriving Repr

/-- The word for the item type of an array. -/
def itemType (outermost : Bool) : String :=
  if outermost then "object" else "int"

mutual

/-- The tokens of an expression. -/
def Expression.tokens : Expression → List Token
  | .number negative numeral =>
    if negative then [.symbol '-', .number numeral] else [.number numeral]
  | .string content => [.string content]
  | .name content =>
    [.word "new", .word "Name", .symbol '(', .string content, .symbol ')']
  | .array outermost items =>
    .word "new" :: .word (itemType outermost) :: .symbol '[' :: .symbol ']' :: .symbol '{' ::
      (itemsTokens items ++ [.symbol '}'])
  | .reference binding =>
    [.word "document", .symbol '.', .word "CreateReference", .symbol '(', .word binding,
      .symbol ')']

/-- The tokens of the items of an array; a comma stands behind each. -/
def itemsTokens : List Expression → List Token
  | [] => []
  | item :: items => item.tokens ++ .symbol ',' :: itemsTokens items

end

/-- The tokens of the entries of a dictionary; a comma stands behind each. -/
def entriesTokens : List (String × Expression) → List Token
  | [] => []
  | (key, value) :: entries =>
    .symbol '{' :: .string key :: .symbol ',' ::
      (value.tokens ++ .symbol '}' :: .symbol ',' :: entriesTokens entries)

/-- The tokens of the bytes of a payload; a comma stands behind each. -/
def bytesTokens : List String → List Token
  | [] => []
  | numeral :: numerals => .number numeral :: .symbol ',' :: bytesTokens numerals

/-- The tokens of a payload, up to the brace that closes its bytes. -/
def PayloadSource.tokens : PayloadSource → List Token
  | .inline numerals =>
    .word "new" :: .word "byte" :: .symbol '[' :: .symbol ']' :: .symbol '{' ::
      (bytesTokens numerals ++ [.symbol '}'])
  | .file name => [.string name]

namespace Statement

/-- The type of the declared object. -/
def typeName (statement : Statement) : String :=
  if statement.payload.isSome then "StreamData" else "GeneralDict"

/-- The tokens in front of the entries. -/
def openingTokens (statement : Statement) : List Token :=
  [.word "var", .word statement.binding, .symbol '=', .word "new", .word statement.typeName,
    .symbol '(', .word "new", .word "Dictionary", .symbol '<', .word "string", .symbol ',',
    .word "object", .symbol '>', .symbol '{']

/-- The tokens behind the entries. -/
def closingTokens (statement : Statement) : List Token :=
  .symbol '}' ::
    ((match statement.payload with
      | none => []
      | some payload => .symbol ',' :: payload.tokens) ++
      [.symbol ')', .symbol ';'])

/-- The tokens of a declaration. -/
def tokens (statement : Statement) : List Token :=
  statement.openingTokens ++ (entriesTokens statement.entries ++ statement.closingTokens)

end Statement

/-- The tokens of declarations, one after the other. -/
def statementsTokens : List Statement → List Token
  | [] => []
  | statement :: statements => statement.tokens ++ statementsTokens statements

/-- The tokens of a factory. -/
def Program.tokens (program : Program) : List Token :=
  .word "internal" :: .word "static" :: .word "GeneralDict" :: .word program.name ::
    .symbol '(' :: .word "Document" :: .word "document" :: .symbol ')' :: .symbol '{' ::
    (statementsTokens program.statements ++
      [.word "return", .word program.returned, .symbol ';', .symbol '}'])

/-! ## Reading -/

mutual

/-- Reads an expression and gives the tokens behind it. -/
def readExpression : (steps : Nat) → List Token → Option (Expression × List Token)
  | 0, _ => none
  | steps + 1, tokens =>
    match tokens with
    | .number numeral :: rest => some (.number false numeral, rest)
    | .symbol '-' :: .number numeral :: rest => some (.number true numeral, rest)
    | .string content :: rest => some (.string content, rest)
    | .word "new" :: .word "Name" :: .symbol '(' :: .string content :: .symbol ')' :: rest =>
      some (.name content, rest)
    | .word "new" :: .word "object" :: .symbol '[' :: .symbol ']' :: .symbol '{' :: rest => do
      let (items, rest) ← readItems steps rest
      return (.array true items, rest)
    | .word "new" :: .word "int" :: .symbol '[' :: .symbol ']' :: .symbol '{' :: rest => do
      let (items, rest) ← readItems steps rest
      return (.array false items, rest)
    | .word "document" :: .symbol '.' :: .word "CreateReference" :: .symbol '(' ::
        .word binding :: .symbol ')' :: rest => some (.reference binding, rest)
    | _ => none

/-- Reads items up to the brace that closes their array. -/
def readItems : (steps : Nat) → List Token → Option (List Expression × List Token)
  | 0, _ => none
  | steps + 1, tokens =>
    match tokens with
    | .symbol '}' :: rest => some ([], rest)
    | tokens => do
      let (item, rest) ← readExpression steps tokens
      match rest with
      | .symbol ',' :: rest =>
        let (items, rest) ← readItems steps rest
        return (item :: items, rest)
      | _ => none

end

/-- Reads entries up to the brace that closes their dictionary. -/
def readEntries : (steps : Nat) → List Token → Option (List (String × Expression) × List Token)
  | 0, _ => none
  | steps + 1, tokens =>
    match tokens with
    | .symbol '}' :: rest => some ([], rest)
    | .symbol '{' :: .string key :: .symbol ',' :: rest => do
      let (value, rest) ← readExpression steps rest
      match rest with
      | .symbol '}' :: .symbol ',' :: rest =>
        let (entries, rest) ← readEntries steps rest
        return ((key, value) :: entries, rest)
      | _ => none
    | _ => none

/-- Reads bytes up to the brace that closes them. -/
def readBytes : List Token → Option (List String × List Token)
  | .symbol '}' :: rest => some ([], rest)
  | .number numeral :: .symbol ',' :: rest => do
    let (numerals, rest) ← readBytes rest
    return (numeral :: numerals, rest)
  | _ => none

/-- Reads a payload and gives the tokens behind it. -/
def readPayload : List Token → Option (PayloadSource × List Token)
  | .word "new" :: .word "byte" :: .symbol '[' :: .symbol ']' :: .symbol '{' :: rest => do
    let (numerals, rest) ← readBytes rest
    return (.inline numerals, rest)
  | .string name :: rest => some (.file name, rest)
  | _ => none

/-- Reads what stands behind the entries of an object of a type. -/
def readClosing : (type : String) → List Token → Option (Option PayloadSource × List Token)
  | "GeneralDict", .symbol ')' :: .symbol ';' :: rest => some (none, rest)
  | "StreamData", .symbol ',' :: rest => do
    let (payload, rest) ← readPayload rest
    match rest with
    | .symbol ')' :: .symbol ';' :: rest => return (some payload, rest)
    | _ => none
  | _, _ => none

/-- Reads a declaration behind the word that opens it. -/
def readStatement (steps : Nat) : List Token → Option (Statement × List Token)
  | .word binding :: .symbol '=' :: .word "new" :: .word type :: .symbol '(' :: .word "new" ::
      .word "Dictionary" :: .symbol '<' :: .word "string" :: .symbol ',' :: .word "object" ::
      .symbol '>' :: .symbol '{' :: rest => do
    let (entries, rest) ← readEntries steps rest
    let (payload, rest) ← readClosing type rest
    return (⟨binding, entries, payload⟩, rest)
  | _ => none

/-- Reads statements up to the end of the factory, and the name that it returns. -/
def readStatements : (steps : Nat) → List Token → Option (List Statement × String)
  | 0, _ => none
  | steps + 1, tokens =>
    match tokens with
    | [.word "return", .word returned, .symbol ';', .symbol '}'] => some ([], returned)
    | .word "var" :: rest => do
      let (statement, rest) ← readStatement steps rest
      let (statements, returned) ← readStatements steps rest
      return (statement :: statements, returned)
    | _ => none

/-- Reads a whole factory. -/
def readProgram : List Token → Option Program
  | .word "internal" :: .word "static" :: .word "GeneralDict" :: .word name :: .symbol '(' ::
      .word "Document" :: .word "document" :: .symbol ')' :: .symbol '{' :: rest => do
    let (statements, returned) ← readStatements rest.length rest
    return ⟨name, statements, returned⟩
  | _ => none

/-! ## Reading undoes writing -/

/-- An expression does not open with the brace that closes an array. -/
theorem Expression.tokens_eq_cons (expression : Expression) :
    ∃ token others, expression.tokens = token :: others ∧
      token ≠ .symbol '}' := by
  cases expression with
  | number negative numeral =>
      cases negative <;> exact ⟨_, _, rfl, by simp⟩
  | string content => exact ⟨_, _, rfl, by simp⟩
  | name content => exact ⟨_, _, rfl, by simp⟩
  | array outermost items =>
      exact ⟨_, _, by rw [tokens], by simp⟩
  | reference binding => exact ⟨_, _, rfl, by simp⟩

theorem Expression.exists_succ {expression : Expression} {steps : Nat}
    (enough : expression.tokens.length ≤ steps) :
    ∃ fewer, steps = fewer + 1 := by
  rcases expression.tokens_eq_cons with ⟨token, others, opened, -⟩
  rw [opened, List.length_cons] at enough
  exact ⟨steps - 1, by omega⟩

mutual

/-- Reading the tokens of an expression gives it back, whatever follows them. -/
theorem readExpression_tokens :
    ∀ (expression : Expression) (steps : Nat) (rest : List Token),
      expression.tokens.length ≤ steps →
      readExpression steps (expression.tokens ++ rest) =
        some (expression, rest)
  | .number negative numeral, steps, rest, enough => by
      rcases Expression.exists_succ enough with ⟨steps, rfl⟩
      cases negative <;> simp [Expression.tokens, readExpression]
  | .string content, steps, rest, enough => by
      rcases Expression.exists_succ enough with ⟨steps, rfl⟩
      simp [Expression.tokens, readExpression]
  | .name content, steps, rest, enough => by
      rcases Expression.exists_succ enough with ⟨steps, rfl⟩
      simp [Expression.tokens, readExpression]
  | .array outermost items, steps, rest, enough => by
      rcases Expression.exists_succ enough with ⟨steps, rfl⟩
      simp only [Expression.tokens, List.length_cons, List.length_append,
        List.length_nil] at enough
      have read := readItems_tokens items steps rest (by omega)
      cases outermost <;>
        simp [Expression.tokens, itemType, readExpression, read]
  | .reference binding, steps, rest, enough => by
      rcases Expression.exists_succ enough with ⟨steps, rfl⟩
      simp [Expression.tokens, readExpression]

theorem readItems_tokens :
    ∀ (items : List Expression) (steps : Nat) (rest : List Token),
      (itemsTokens items).length < steps →
      readItems steps (itemsTokens items ++ .symbol '}' :: rest) =
        some (items, rest)
  | [], steps, rest, enough => by
      rcases Nat.exists_eq_add_one.mpr (Nat.zero_lt_of_lt enough) with
        ⟨steps, rfl⟩
      simp [itemsTokens, readItems]
  | item :: items, steps, rest, enough => by
      simp only [itemsTokens, List.length_cons, List.length_append] at enough
      rcases Nat.exists_eq_add_one.mpr (Nat.zero_lt_of_lt enough) with
        ⟨steps, rfl⟩
      have itemRead :=
        readExpression_tokens item steps
          (.symbol ',' :: (itemsTokens items ++ .symbol '}' :: rest)) (by omega)
      have othersRead := readItems_tokens items steps rest (by omega)
      rcases item.tokens_eq_cons with ⟨token, others, opened, noBrace⟩
      rw [itemsTokens, List.append_assoc, List.cons_append, readItems]
      · simp [itemRead, othersRead]
      · -- the closing brace is not what an item opens with
        intro rest closed
        rw [opened] at closed
        exact noBrace (List.cons.inj closed).1

end

theorem readEntries_tokens
    (entries : List (String × Expression)) (steps : Nat)
    (rest : List Token)
    (enough : (entriesTokens entries).length < steps) :
    readEntries steps (entriesTokens entries ++ .symbol '}' :: rest) =
      some (entries, rest) := by
  induction entries generalizing steps with
  | nil =>
      rcases Nat.exists_eq_add_one.mpr (Nat.zero_lt_of_lt enough) with
        ⟨steps, rfl⟩
      simp [entriesTokens, readEntries]
  | cons entry entries ih =>
      rcases entry with ⟨key, value⟩
      simp only [entriesTokens, List.length_cons, List.length_append] at enough
      rcases Nat.exists_eq_add_one.mpr (Nat.zero_lt_of_lt enough) with
        ⟨steps, rfl⟩
      have valueRead :=
        readExpression_tokens value steps
          (.symbol '}' :: .symbol ',' ::
            (entriesTokens entries ++ .symbol '}' :: rest)) (by omega)
      have othersRead := ih steps (by omega)
      simp [entriesTokens, readEntries, valueRead, othersRead]

theorem readBytes_tokens (numerals : List String) (rest : List Token) :
    readBytes (bytesTokens numerals ++ .symbol '}' :: rest) =
      some (numerals, rest) := by
  induction numerals with
  | nil => simp [bytesTokens, readBytes]
  | cons numeral numerals ih => simp [bytesTokens, readBytes, ih]

theorem readPayload_tokens (payload : PayloadSource) (rest : List Token) :
    readPayload (payload.tokens ++ rest) = some (payload, rest) := by
  cases payload with
  | inline numerals =>
      simp [PayloadSource.tokens, readPayload, readBytes_tokens]
  | file name => simp [PayloadSource.tokens, readPayload]

theorem readStatement_tokens
    (statement : Statement) (steps : Nat) (rest : List Token)
    (enough : (entriesTokens statement.entries).length < steps) :
    readStatement steps (statement.tokens.tail ++ rest) =
      some (statement, rest) := by
  rcases statement with ⟨binding, entries, payload⟩
  have entriesRead (others : List Token) :=
    readEntries_tokens entries steps others enough
  cases payload with
  | none =>
      simp [Statement.tokens, Statement.openingTokens, Statement.typeName,
        Statement.closingTokens, readStatement, entriesRead, readClosing]
  | some payload =>
      simp [Statement.tokens, Statement.openingTokens, Statement.typeName,
        Statement.closingTokens, readStatement, entriesRead, readClosing,
        readPayload_tokens]

theorem Statement.tokens_eq_cons (statement : Statement) :
    statement.tokens = .word "var" :: statement.tokens.tail := rfl

theorem Statement.entriesTokens_length (statement : Statement) :
    (entriesTokens statement.entries).length < statement.tokens.tail.length := by
  simp only [tokens, openingTokens, List.cons_append, List.tail_cons,
    List.length_cons, List.length_append]
  omega

theorem readStatements_tokens
    (statements : List Statement) (returned : String) (steps : Nat)
    (enough : (statementsTokens statements).length < steps) :
    readStatements steps
        (statementsTokens statements ++
          [.word "return", .word returned, .symbol ';', .symbol '}']) =
      some (statements, returned) := by
  induction statements generalizing steps with
  | nil =>
      rcases Nat.exists_eq_add_one.mpr (Nat.zero_lt_of_lt enough) with
        ⟨steps, rfl⟩
      simp [statementsTokens, readStatements]
  | cons statement statements ih =>
      rw [statementsTokens, List.length_append, statement.tokens_eq_cons,
        List.length_cons] at enough
      rcases Nat.exists_eq_add_one.mpr (Nat.zero_lt_of_lt enough) with
        ⟨steps, rfl⟩
      have entriesShort := statement.entriesTokens_length
      have statementRead (others : List Token) :=
        readStatement_tokens statement steps others (by omega)
      have othersRead := ih steps (by omega)
      rw [statementsTokens, statement.tokens_eq_cons]
      simp [readStatements, statementRead, othersRead]

/-- Reading the tokens of a factory gives the factory back. -/
theorem readProgram_tokens (program : Program) :
    readProgram program.tokens = some program := by
  have read :=
    readStatements_tokens program.statements program.returned
      (statementsTokens program.statements ++
        [Token.word "return", .word program.returned, .symbol ';',
          .symbol '}']).length
      (by simp only [List.length_append, List.length_cons]; omega)
  simp only [Program.tokens, readProgram, read]
  rfl

end FontCompiler.Factory
