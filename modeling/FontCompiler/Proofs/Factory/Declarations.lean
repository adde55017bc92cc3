import FontCompiler.Factory

/-!
# Declarations of a graph

The text of a factory, said without frames.  Every node has an expression at
the place where a property uses it, and the dictionaries and streams at or
below it have declarations.  Both are functions of the node alone, so the text
of a graph is put together from the texts of its parts.

The declarations stand in post-order: what an object refers to comes before
the object itself.
-/

namespace FontCompiler.Factory

open FontCompiler.Graph

/-- An object that gets a declaration of its own, with the property that it hangs off. -/
structure Declaration where
  property : String
  entries : Dictionary
  /-- The payload of a stream; a dictionary has none. -/
  payload : Option (List UInt8)
  deriving Repr

/-! ## Expressions at the place of use -/

mutual

/-- The expression that stands where a property uses a node; unsupported nodes have none. -/
def useSite (property : String) (nesting : Nat) : Node → String
  | .dictionary _ => reference (Text.lowerFirst property)
  | .stream _ _ => reference (Text.lowerFirst property)
  | .array items =>
    if nesting = 0 then
      "new object[] \x7b\n" ++ itemsText property nesting items ++ Code.blanks entryIndent ++ "\x7d"
    else "new int[] \x7b " ++ itemsText property nesting items ++ "\x7d"
  | .float value => floatLiteral value
  | .integer value => Numeric.decimalInt value.toInt
  | .name text => "new Name(\"" ++ text ++ "\")"
  | .string text => "\"" ++ text ++ "\""
  | .boolean _ => ""
  | .null => ""

/-- The items of an array between its braces. -/
def itemsText (property : String) (nesting : Nat) : List Node → String
  | [] => ""
  | item :: items =>
    (if nesting = 0 then Code.blanks itemIndent else "") ++
      useSite property (nesting + 1) item ++
      (if nesting = 0 then ",\n" else ", ") ++
      itemsText property nesting items

end

/-- The lines of the entries of a dictionary; their arrays are outermost ones again. -/
def entriesText : List (String × Node) → String
  | [] => ""
  | (key, value) :: entries =>
    Code.blanks entryIndent ++ ("\x7b \"" ++ key ++ "\", ") ++ useSite key 0 value ++ " \x7d,\n" ++
      entriesText entries

theorem itemsText_append (property : String) (nesting : Nat) (front back : List Node) :
    itemsText property nesting (front ++ back) =
      itemsText property nesting front ++ itemsText property nesting back := by
  induction front with
  | nil => simp [itemsText]
  | cons item front ih => simp only [List.cons_append, itemsText, ih, String.append_assoc]

theorem entriesText_append (front back : List (String × Node)) :
    entriesText (front ++ back) = entriesText front ++ entriesText back := by
  induction front with
  | nil => simp [entriesText]
  | cons entry front ih => simp only [List.cons_append, entriesText, ih, String.append_assoc]

/-! ## Texts of declarations -/

namespace Declaration

/-- The name that a declaration binds. -/
def binding (declaration : Declaration) : String :=
  Text.lowerFirst declaration.property

/-- The literal of a payload, or the name of the file that holds it. -/
def payloadText (label property : String) (payload : List UInt8) : String :=
  if payload.length < inlineLimit then payloadLiteral payload
  else "\"" ++ sidecarName label property ++ "\""

/-- The payload that a declaration stores aside. -/
def sidecar? (label : String) (declaration : Declaration) : Option Sidecar :=
  match declaration.payload with
  | none => none
  | some payload =>
    if payload.length < inlineLimit then none
    else some ⟨sidecarName label declaration.property, payload⟩

/-- The lines that open a declaration. -/
def openingText (type binding : String) : String :=
  Code.blanks Code.statementIndent ++
    ("var " ++ binding ++ " = new " ++ type ++ "(new Dictionary<string, object>") ++ "\n" ++
    (Code.blanks Code.statementIndent ++ "\x7b" ++ "\n")

/-- The text behind the entries of a declaration. -/
def closingText (label : String) (declaration : Declaration) : String :=
  match declaration.payload with
  | none => Code.blanks Code.statementIndent ++ "\x7d);" ++ "\n" ++ "\n"
  | some payload =>
    Code.blanks Code.statementIndent ++ "\x7d, " ++
      payloadText label declaration.property payload ++ ");\n\n\n"

/-- The type of the declared object. -/
def typeName (declaration : Declaration) : String :=
  match declaration.payload with
  | none => "GeneralDict"
  | some _ => "StreamData"

/-- The whole text of a declaration. -/
def text (label : String) (declaration : Declaration) : String :=
  openingText declaration.typeName declaration.binding ++ entriesText declaration.entries ++
    declaration.closingText label

end Declaration

/-! ## Declarations in post-order -/

mutual

/-- The declarations of the objects at or below a node that hangs off a property. -/
def declarations (property : String) : Node → List Declaration
  | .dictionary entries => entriesDeclarations entries ++ [⟨property, entries, none⟩]
  | .stream entries payload => entriesDeclarations entries ++ [⟨property, entries, some payload⟩]
  | .array items => itemsDeclarations property items
  | .float _ => []
  | .integer _ => []
  | .name _ => []
  | .string _ => []
  | .boolean _ => []
  | .null => []

/-- The declarations below the items of an array, which all hang off its property. -/
def itemsDeclarations (property : String) : List Node → List Declaration
  | [] => []
  | item :: items => declarations property item ++ itemsDeclarations property items

/-- The declarations below the entries of a dictionary. -/
def entriesDeclarations : List (String × Node) → List Declaration
  | [] => []
  | (key, value) :: entries => declarations key value ++ entriesDeclarations entries

end

theorem itemsDeclarations_append (property : String) (front back : List Node) :
    itemsDeclarations property (front ++ back) =
      itemsDeclarations property front ++ itemsDeclarations property back := by
  induction front with
  | nil => rfl
  | cons item front ih =>
      rw [List.cons_append, itemsDeclarations, itemsDeclarations, ih, List.append_assoc]

theorem entriesDeclarations_append (front back : List (String × Node)) :
    entriesDeclarations (front ++ back) =
      entriesDeclarations front ++ entriesDeclarations back := by
  induction front with
  | nil => rfl
  | cons entry front ih =>
      rw [List.cons_append, entriesDeclarations, entriesDeclarations, ih, List.append_assoc]

/-- The texts of declarations, one after the other. -/
def declarationsText (label : String) (declared : List Declaration) : String :=
  String.join (declared.map (·.text label))

/-- The payloads that declarations store aside, in their order. -/
def sidecarsOf (label : String) (declared : List Declaration) : List Sidecar :=
  declared.filterMap (·.sidecar? label)

@[simp]
theorem declarationsText_nil (label : String) :
    declarationsText label [] = "" := rfl

@[simp]
theorem declarationsText_append
    (label : String) (first second : List Declaration) :
    declarationsText label (first ++ second) =
      declarationsText label first ++ declarationsText label second := by
  simp [declarationsText]

@[simp]
theorem declarationsText_singleton
    (label : String) (declaration : Declaration) :
    declarationsText label [declaration] = declaration.text label := by
  simp [declarationsText]

@[simp]
theorem sidecarsOf_nil (label : String) :
    sidecarsOf label [] = [] := rfl

@[simp]
theorem sidecarsOf_append
    (label : String) (first second : List Declaration) :
    sidecarsOf label (first ++ second) =
      sidecarsOf label first ++ sidecarsOf label second := by
  simp [sidecarsOf]

/-! ## The whole factory -/

/-- The three lines in front of the declarations. -/
def prologueText (label : String) : String :=
  Code.blanks Code.memberIndent ++ Code.header ++ "\n" ++
    (Code.blanks Code.memberIndent ++
      ("internal static GeneralDict Create" ++ label ++ "(Document document)") ++ "\n") ++
    (Code.blanks Code.memberIndent ++ "\x7b" ++ "\n")

/-- The lines behind the declarations. -/
def epilogueText : String :=
  Code.blanks Code.statementIndent ++ ("return " ++ rootProperty ++ ";") ++ "\n" ++
    (Code.blanks Code.memberIndent ++ "\x7d" ++ "\n") ++ "\n"

/-- The text of a factory, put together from the declarations of its graph. -/
def factoryText (root : Dictionary) (label : String) : String :=
  prologueText label ++ declarationsText label (declarations rootProperty (.dictionary root)) ++
    epilogueText

end FontCompiler.Factory
