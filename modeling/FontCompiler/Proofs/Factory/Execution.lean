import FontCompiler.Proofs.Factory.PostOrder
import FontCompiler.Proofs.Factory.Syntax
import FontCompiler.Proofs.Text.Digits
import Mathlib.Data.List.TakeWhile

/-!
# Running a factory

A factory is run from its first statement to its last.  Each declaration is
evaluated with the objects that are bound already, and binds one more; a name
that is not bound yet has no object, and then the run has no result.  Payloads
come from the code or from the files beside it.

The second half of the module gives the syntax tree for a graph and shows that
running it rebuilds the graph, with every number rounded to the six places of
its literal.  The argument follows the post-order: when a declaration is
reached, everything it refers to is bound.
-/

namespace FontCompiler.Factory

open FontCompiler.Graph Numeric Generated

/-! ## Evaluation -/

/-- The single-precision number that a decimal fraction stands for. -/
def nearestSingle (negative : Bool) (digits places : Nat) : Binary32 :=
  .ofValue (FloatFormat.binary32.ofRatio negative digits (10 ^ places))

/-- The number that a numeral stands for: with a point and a suffix a single, else an integer. -/
def numeralValue? (negative : Bool) (numeral : String) : Option Node :=
  let whole := numeral.toList.takeWhile (· != '.')
  match numeral.toList.dropWhile (· != '.') with
  | [] =>
    (Text.decimalValue? whole).map fun (magnitude : Nat) =>
      .integer (Int64.ofInt (if negative then -(magnitude : Int) else magnitude))
  | _ :: fraction =>
    if fraction.getLast? = some 'f' then
      (Text.decimalValue? (whole ++ fraction.dropLast)).map fun digits =>
        .float (nearestSingle negative digits fraction.dropLast.length)
    else none

/-- The byte that a numeral stands for. -/
def byteValue? (numeral : String) : Option UInt8 :=
  match hexNumeral? numeral with
  | some value => if value < 256 then some (UInt8.ofNat value) else none
  | none => none

/-- The objects bound so far, the latest first. -/
abbrev Environment := List (String × Node)

mutual

/-- The object that an expression stands for. -/
def Expression.value? (bound : Environment) : Expression → Option Node
  | .number negative numeral => numeralValue? negative numeral
  | .string content => some (.string content)
  | .name content => some (.name content)
  | .array _ items => (itemsValue? bound items).map Node.array
  | .reference binding => Ordered.get? binding bound

/-- The objects that the items of an array stand for. -/
def itemsValue? (bound : Environment) : List Expression → Option (List Node)
  | [] => some []
  | item :: items => do
    let value ← item.value? bound
    let values ← itemsValue? bound items
    return value :: values

end

/-- The entries that the entries of a declaration stand for. -/
def entriesValue? (bound : Environment) : List (String × Expression) → Option Dictionary
  | [] => some []
  | (key, expression) :: entries => do
    let value ← expression.value? bound
    let values ← entriesValue? bound entries
    return (key, value) :: values

/-- The bytes of a payload, read from the code or from the file of a name. -/
def PayloadSource.bytes? (files : List Sidecar) : PayloadSource → Option (List UInt8)
  | .inline numerals => numerals.mapM byteValue?
  | .file name => (files.find? (·.name == name)).map (·.bytes)

/-- The object that a declaration builds. -/
def Statement.object? (files : List Sidecar) (bound : Environment) (statement : Statement) :
    Option Node := do
  let entries ← entriesValue? bound statement.entries
  match statement.payload with
  | none => return .dictionary entries
  | some payload =>
    let bytes ← payload.bytes? files
    return .stream entries bytes

/-- Executes declarations in order. -/
def execute (files : List Sidecar) : List Statement → Environment → Option Environment
  | [], bound => some bound
  | statement :: statements, bound => do
    let object ← statement.object? files bound
    execute files statements ((statement.binding, object) :: bound)

/-- The object that a factory returns. -/
def Program.run (files : List Sidecar) (program : Program) : Option Node := do
  let bound ← execute files program.statements []
  Ordered.get? program.returned bound

/-- The object that the text of a factory returns, run with the files beside it. -/
def runFactory (files : List Sidecar) (source : String) : Option Node := do
  let program ← readProgram (scan source)
  program.run files

theorem execute_append (files : List Sidecar)
    (first second : List Statement) (bound : Environment) :
    execute files (first ++ second) bound =
      (execute files first bound).bind (execute files second) := by
  induction first generalizing bound with
  | nil => rfl
  | cons statement statements ih =>
      simp only [List.cons_append, execute, Option.bind_eq_bind,
        Option.bind_assoc, ih]

/-! ## The tree of a graph -/

/-- The numeral of a magnitude, with six places and the suffix of singles. -/
def singleNumeral (units : Nat) : String :=
  fixedPlaces .binary32 6 units ++ "f"

mutual

/-- The expression at the place where a property uses a node; unsupported nodes have none. -/
def expressionOf (property : String) (nesting : Nat) : Node → Expression
  | .dictionary _ => .reference (Text.lowerFirst property)
  | .stream _ _ => .reference (Text.lowerFirst property)
  | .array items => .array (nesting == 0) (itemExpressions property nesting items)
  | .float value =>
    match value.value with
    | .finite negative units => .number negative (singleNumeral units)
    | _ => .string ""
  | .integer value => .number (value.toInt < 0) (decimalDigits value.toInt.natAbs)
  | .name text => .name text
  | .string text => .string text
  | .boolean _ => .string ""
  | .null => .string ""

/-- The expressions of the items of an array. -/
def itemExpressions (property : String) (nesting : Nat) : List Node → List Expression
  | [] => []
  | item :: items =>
    expressionOf property (nesting + 1) item :: itemExpressions property nesting items

end

/-- The entries of a declaration. -/
def entryExpressions : List (String × Node) → List (String × Expression)
  | [] => []
  | (key, value) :: entries => (key, expressionOf key 0 value) :: entryExpressions entries

/-- The numeral of a byte. -/
def byteNumeral (byte : UInt8) : String :=
  "0x" ++ Text.upperHex 2 byte.toNat

/-- Where the payload of a property is kept. -/
def payloadSource (label property : String) (payload : List UInt8) : PayloadSource :=
  if payload.length < inlineLimit then .inline (payload.map byteNumeral)
  else .file (sidecarName label property)

/-- The statement of a declaration. -/
def Declaration.statement (label : String) (declaration : Declaration) : Statement :=
  ⟨declaration.binding, entryExpressions declaration.entries,
    declaration.payload.map (payloadSource label declaration.property)⟩

/-- The syntax tree of the factory of a graph. -/
def programOf (root : Dictionary) (label : String) : Program :=
  ⟨"Create" ++ label,
    (declarations rootProperty (.dictionary root)).map (·.statement label), rootProperty⟩

/-! ## The graph with rounded numbers -/

/-- A single rounded to six places, a half going to the even neighbour, and back to a single. -/
def sixPlaces (number : Binary32) : Binary32 :=
  match number.value with
  | .finite negative units =>
    nearestSingle negative (roundHalfEven (units * 10 ^ 6) FloatFormat.binary32.one) 6
  | _ => number

mutual

/-- A node with every single rounded to six places, and all else as it is. -/
def rounded : Node → Node
  | .dictionary entries => .dictionary (roundedEntries entries)
  | .stream entries payload => .stream (roundedEntries entries) payload
  | .array items => .array (roundedItems items)
  | .float value => .float (sixPlaces value)
  | .integer value => .integer value
  | .name text => .name text
  | .string text => .string text
  | .boolean value => .boolean value
  | .null => .null

/-- The items of an array with rounded singles. -/
def roundedItems : List Node → List Node
  | [] => []
  | item :: items => rounded item :: roundedItems items

/-- The entries of a dictionary with rounded singles. -/
def roundedEntries : List (String × Node) → List (String × Node)
  | [] => []
  | (key, value) :: entries => (key, rounded value) :: roundedEntries entries

end

/-- The object that a declaration stands for. -/
def Declaration.object (declaration : Declaration) : Node :=
  match declaration.payload with
  | none => .dictionary (roundedEntries declaration.entries)
  | some payload => .stream (roundedEntries declaration.entries) payload

/-! ## Numerals -/

theorem decimalValue?_toDigits (number : Nat) :
    Text.decimalValue? (Nat.toDigits 10 number) = some number :=
  Text.decimalValue?_eq_some_iff.mpr (Text.denotes_decimal number)

theorem ne_point_of_mem_toDigits (number : Nat) :
    ∀ char ∈ Nat.toDigits 10 number, (char != '.') = true :=
  Text.forall_mem_toDigits (by decide) (fun char => (char != '.') = true)
    (by decide) number

theorem numeralValue?_integer (value : Int64) :
    numeralValue? (value.toInt < 0) (decimalDigits value.toInt.natAbs) =
      some (.integer value) := by
  have noPoint := ne_point_of_mem_toDigits value.toInt.natAbs
  have whole := List.takeWhile_eq_self_iff.mpr noPoint
  have nothing := List.dropWhile_eq_nil_iff.mpr noPoint
  have magnitude :
      (if value.toInt < 0 then -(value.toInt.natAbs : Int)
        else value.toInt.natAbs) = value.toInt := by
    split <;> omega
  simp only [numeralValue?, decimalDigits, String.toList_ofList, whole,
    nothing, decimalValue?_toDigits, Option.map_some, decide_eq_true_eq,
    magnitude, Int64.ofInt_toInt]

theorem numeralValue?_of_point {numeral : String} {whole fraction : List Char}
    {digits : Nat} (negative : Bool)
    (shape : numeral.toList = whole ++ '.' :: (fraction ++ ['f']))
    (noPoint : ∀ char ∈ whole, (char != '.') = true)
    (read : Text.decimalValue? (whole ++ fraction) = some digits) :
    numeralValue? negative numeral =
      some (.float (nearestSingle negative digits fraction.length)) := by
  have before :
      numeral.toList.takeWhile (· != '.') = whole := by
    rw [shape, List.takeWhile_append_of_pos noPoint]
    simp
  have behind :
      numeral.toList.dropWhile (· != '.') = '.' :: (fraction ++ ['f']) := by
    rw [shape, List.dropWhile_append_of_pos noPoint]
    simp
  simp only [numeralValue?, before, behind, List.getLast?_concat,
    List.dropLast_concat, if_true, read, Option.map_some]

theorem decimalValue?_places {places : Nat} (positive : 0 < places)
    (scaled : Nat) :
    Text.decimalValue?
        (Nat.toDigits 10 (scaled / 10 ^ places) ++
          Text.padZeros places (Nat.toDigits 10 (scaled % 10 ^ places))) =
      some scaled := by
  have width :
      (Text.padZeros places
        (Nat.toDigits 10 (scaled % 10 ^ places))).length = places :=
    Text.length_padZeros_toDigits (by decide) positive
      (Nat.mod_lt _ (Nat.pow_pos (by decide)))
  have denoted :=
    (Text.denotes_decimal (scaled / 10 ^ places)).append
      ((Text.denotes_decimal (scaled % 10 ^ places)).padZeros
        (by decide) places)
  rw [width, Nat.div_add_mod'] at denoted
  exact Text.decimalValue?_eq_some_iff.mpr denoted

/-- A literal with fixed places is read as the number rounded to these places. -/
theorem numeralValue?_fixedPlaces {places : Nat} (positive : 0 < places)
    (negative : Bool) (units : Nat) :
    numeralValue? negative (fixedPlaces .binary32 places units ++ "f") =
      some (.float (nearestSingle negative
        (roundHalfEven (units * 10 ^ places) FloatFormat.binary32.one)
        places)) := by
  let scaled := roundHalfEven (units * 10 ^ places) FloatFormat.binary32.one
  let fraction :=
    Text.padZeros places (Nat.toDigits 10 (scaled % 10 ^ places))
  have shape :
      (fixedPlaces .binary32 places units ++ "f").toList =
        Nat.toDigits 10 (scaled / 10 ^ places) ++ '.' :: (fraction ++ ['f']) := by
    simp [fixedPlaces, decimalDigits, DecimalStyle.zeros, Text.padZeros,
      fraction, scaled]
  have width : fraction.length = places :=
    Text.length_padZeros_toDigits (by decide) positive
      (Nat.mod_lt _ (Nat.pow_pos (by decide)))
  have value :=
    numeralValue?_of_point negative shape
      (ne_point_of_mem_toDigits (scaled / 10 ^ places))
      (decimalValue?_places positive scaled)
  rwa [width] at value

theorem numeralValue?_single (negative : Bool) (units : Nat) :
    numeralValue? negative (singleNumeral units) =
      some (.float (nearestSingle negative
        (roundHalfEven (units * 10 ^ 6) FloatFormat.binary32.one) 6)) :=
  numeralValue?_fixedPlaces (by decide) negative units

/-! ## Payloads -/

theorem byteValue?_byteNumeral (byte : UInt8) :
    byteValue? (byteNumeral byte) = some byte := by
  have small : byte.toNat < 256 := byte.toNat_lt
  simp [byteValue?, byteNumeral, hexNumeral?_upperHex, small,
    UInt8.ofNat_toNat]

theorem mapM_byteValue? (payload : List UInt8) :
    (payload.map byteNumeral).mapM byteValue? = some payload := by
  induction payload with
  | nil => rfl
  | cons byte payload ih =>
      simp [List.mapM_cons, byteValue?_byteNumeral, ih]

theorem sidecarName_injective {label left right : String}
    (same : sidecarName label left = sidecarName label right) :
    left = right := by
  have chars := congrArg String.toList same
  simpa [sidecarName, String.toList_inj] using chars

theorem Declaration.name_of_sidecar? {label : String}
    {declaration : Declaration} {sidecar : Sidecar}
    (aside : declaration.sidecar? label = some sidecar) :
    sidecar.name = sidecarName label declaration.property := by
  unfold sidecar? at aside
  split at aside
  · cases aside
  · split at aside
    · cases aside
    · cases aside
      rfl

/-- The file of a large payload is found under the name that its declaration gives. -/
theorem find?_sidecarsOf {label : String} {declared : List Declaration}
    {declaration : Declaration} {payload : List UInt8}
    (distinct : (declared.map (·.binding)).Nodup)
    (member : declaration ∈ declared)
    (stream : declaration.payload = some payload)
    (large : ¬ payload.length < inlineLimit) :
    (sidecarsOf label declared).find?
        (·.name == sidecarName label declaration.property) =
      some ⟨sidecarName label declaration.property, payload⟩ := by
  induction declared with
  | nil => cases member
  | cons head declared ih =>
      rcases List.nodup_cons.mp distinct with ⟨fresh, others⟩
      rcases List.mem_cons.mp member with rfl | behind
      · simp [sidecarsOf, Declaration.sidecar?, stream, large]
      · have found := ih others behind
        -- one property has one binding, so another declaration has another file
        have apart : head.property ≠ declaration.property := by
          intro same
          refine fresh (List.mem_map.mpr ⟨declaration, behind, ?_⟩)
          simp only [Declaration.binding, same]
        cases aside : head.sidecar? label with
        | none =>
            rw [sidecarsOf, List.filterMap_cons_none aside]
            exact found
        | some sidecar =>
            have other :
                ¬ (sidecar.name ==
                  sidecarName label declaration.property) = true := by
              rw [beq_iff_eq, Declaration.name_of_sidecar? aside]
              exact fun same => apart (sidecarName_injective same)
            rw [sidecarsOf, List.filterMap_cons_some aside]
            refine Eq.trans (List.find?_cons_of_neg ?_) found
            exact other

theorem bytes?_payloadSource {label : String} {declared : List Declaration}
    {declaration : Declaration} {payload : List UInt8}
    (distinct : (declared.map (·.binding)).Nodup)
    (member : declaration ∈ declared)
    (stream : declaration.payload = some payload) :
    (payloadSource label declaration.property payload).bytes?
        (sidecarsOf label declared) = some payload := by
  unfold payloadSource
  by_cases small : payload.length < inlineLimit
  · rw [if_pos small]
    exact mapM_byteValue? payload
  · rw [if_neg small, PayloadSource.bytes?,
      find?_sidecarsOf distinct member stream small]
    rfl

/-! ## Names that are bound -/

/-- The environment behind declarations, the latest first. -/
def bindAll (declared : List Declaration) (bound : Environment) : Environment :=
  declared.foldl (fun bound declaration =>
    (declaration.binding, declaration.object) :: bound) bound

@[simp]
theorem bindAll_append
    (first second : List Declaration) (bound : Environment) :
    bindAll (first ++ second) bound = bindAll second (bindAll first bound) :=
  List.foldl_append

/-- Every declaration is bound to its object. -/
def Binds (bound : Environment) (declared : List Declaration) : Prop :=
  ∀ declaration ∈ declared,
    Ordered.get? declaration.binding bound = some declaration.object

theorem Binds.append {bound : Environment} {first second : List Declaration} :
    Binds bound (first ++ second) ↔ Binds bound first ∧ Binds bound second :=
  List.forall_mem_append

theorem get?_bindAll_of_notMem {binding : String} {declared : List Declaration}
    (fresh : binding ∉ declared.map (·.binding)) (bound : Environment) :
    Ordered.get? binding (bindAll declared bound) =
      Ordered.get? binding bound := by
  induction declared generalizing bound with
  | nil => rfl
  | cons declaration declared ih =>
      rw [List.map_cons, List.mem_cons, not_or] at fresh
      have other : ¬ (declaration.binding == binding) = true := by
        rw [beq_iff_eq]
        exact fun same => fresh.1 same.symm
      have skipped := ih fresh.2 ((declaration.binding, declaration.object) :: bound)
      rwa [Ordered.get?, if_neg other] at skipped

/-- Declarations with distinct names are all bound behind the last of them. -/
theorem binds_bindAll {declared : List Declaration}
    (distinct : (declared.map (·.binding)).Nodup) (bound : Environment) :
    Binds (bindAll declared bound) declared := by
  induction declared generalizing bound with
  | nil => intro declaration member; cases member
  | cons head declared ih =>
      rcases List.nodup_cons.mp distinct with ⟨fresh, others⟩
      intro declaration member
      rcases List.mem_cons.mp member with rfl | behind
      · have kept :=
          get?_bindAll_of_notMem fresh
            ((declaration.binding, declaration.object) :: bound)
        simpa [bindAll, Ordered.get?] using kept
      · exact ih others _ declaration behind

/-! ## The graph is rebuilt -/

mutual

/--
A node can be written and read back where a property uses it: its binding is an
identifier, its texts end no literal, and its singles are finite.
-/
def Legible (property : String) : Node → Prop
  | .dictionary _ => Code.isIdentifier (Text.lowerFirst property) = true
  | .stream _ _ => Code.isIdentifier (Text.lowerFirst property) = true
  | .array items => LegibleItems property items
  | .float value => value.value.isFinite = true
  | .integer _ => True
  | .name text => Plain text
  | .string text => Plain text
  | .boolean _ => False
  | .null => False

/-- All items of an array are legible. -/
def LegibleItems (property : String) : List Node → Prop
  | [] => True
  | item :: items => Legible property item ∧ LegibleItems property items

end

/-- A declaration can be written and read back. -/
structure Declaration.Legible (declaration : Declaration) : Prop where
  binding : Code.isIdentifier declaration.binding = true
  property : Plain declaration.property
  keys : ∀ entry ∈ declaration.entries, Plain entry.1
  values : ∀ entry ∈ declaration.entries, Factory.Legible entry.1 entry.2

theorem exists_finite {value : FloatValue} (finite : value.isFinite = true) :
    ∃ negative units, value = .finite negative units := by
  cases value with
  | finite negative units => exact ⟨negative, units, rfl⟩
  | infinite negative => cases finite
  | nan => cases finite

mutual

/-- An expression is evaluated to its node if all that it refers to is bound. -/
theorem value?_expressionOf (property : String) (nesting : Nat)
    (bound : Environment) :
    ∀ node : Node, Legible property node →
      Binds bound (declarations property node) →
      (expressionOf property nesting node).value? bound = some (rounded node)
  | .dictionary entries, _, binds => by
      have own := binds ⟨property, entries, none⟩ (by simp [declarations])
      simpa [expressionOf, Expression.value?, rounded, Declaration.binding,
        Declaration.object] using own
  | .stream entries payload, _, binds => by
      have own :=
        binds ⟨property, entries, some payload⟩ (by simp [declarations])
      simpa [expressionOf, Expression.value?, rounded, Declaration.binding,
        Declaration.object] using own
  | .array items, legible, binds => by
      rw [Legible] at legible
      rw [declarations] at binds
      have values := itemsValue?_itemExpressions property nesting bound items legible binds
      simp [expressionOf, Expression.value?, rounded, values]
  | .float value, legible, _ => by
      rw [Legible] at legible
      rcases exists_finite legible with ⟨negative, units, finite⟩
      simp only [expressionOf, finite, Expression.value?, rounded, sixPlaces,
        numeralValue?_single]
  | .integer value, _, _ => by
      simpa only [expressionOf, Expression.value?, rounded] using
        numeralValue?_integer value
  | .name text, _, _ => rfl
  | .string text, _, _ => rfl
  | .boolean value, legible, _ => by
      rw [Legible] at legible
      exact legible.elim
  | .null, legible, _ => by
      rw [Legible] at legible
      exact legible.elim

theorem itemsValue?_itemExpressions (property : String) (nesting : Nat)
    (bound : Environment) :
    ∀ items : List Node, LegibleItems property items →
      Binds bound (itemsDeclarations property items) →
      itemsValue? bound (itemExpressions property nesting items) =
        some (roundedItems items)
  | [], _, _ => by
      simp [itemExpressions, itemsValue?, roundedItems]
  | item :: items, legible, binds => by
      rw [LegibleItems] at legible
      rw [itemsDeclarations, Binds.append] at binds
      have value :=
        value?_expressionOf property (nesting + 1) bound item legible.1 binds.1
      have values :=
        itemsValue?_itemExpressions property nesting bound items legible.2
          binds.2
      simp [itemExpressions, itemsValue?, roundedItems, value, values]

end

theorem entriesValue?_entryExpressions (bound : Environment)
    (entries : List (String × Node))
    (legible : ∀ entry ∈ entries, Legible entry.1 entry.2)
    (binds : Binds bound (entriesDeclarations entries)) :
    entriesValue? bound (entryExpressions entries) =
      some (roundedEntries entries) := by
  induction entries with
  | nil => rfl
  | cons entry entries ih =>
      rcases entry with ⟨key, value⟩
      rcases List.forall_mem_cons.mp legible with ⟨own, others⟩
      rw [entriesDeclarations, Binds.append] at binds
      have first := value?_expressionOf key 0 bound value own binds.1
      have rest := ih others binds.2
      simp [entryExpressions, entriesValue?, roundedEntries, first, rest]

/-- The files hold every payload where its declaration looks for it. -/
def Stored (label : String) (files : List Sidecar)
    (declared : List Declaration) : Prop :=
  ∀ declaration ∈ declared, ∀ payload ∈ declaration.payload,
    (payloadSource label declaration.property payload).bytes? files =
      some payload

theorem Stored.append {label : String} {files : List Sidecar}
    {first second : List Declaration} :
    Stored label files (first ++ second) ↔
      Stored label files first ∧ Stored label files second :=
  List.forall_mem_append

theorem object?_statement {label : String} {files : List Sidecar}
    {bound : Environment} {declaration : Declaration}
    (legible : declaration.Legible)
    (stored : Stored label files [declaration])
    (binds : Binds bound (entriesDeclarations declaration.entries)) :
    (declaration.statement label).object? files bound =
      some declaration.object := by
  have entries :=
    entriesValue?_entryExpressions bound declaration.entries legible.values
      binds
  have bytes := List.forall_mem_singleton.mp stored
  cases payload : declaration.payload with
  | none =>
      simp [Declaration.statement, Statement.object?, Declaration.object,
        entries, payload]
  | some payload' =>
      have read := bytes payload' payload
      simp [Declaration.statement, Statement.object?, Declaration.object,
        entries, payload, read]

/-- Running declarations binds each of them to its object. -/
def Runs (label : String) (files : List Sidecar)
    (declared : List Declaration) : Prop :=
  (declared.map (·.binding)).Nodup →
    (∀ declaration ∈ declared, declaration.Legible) →
    Stored label files declared →
    ∀ bound, execute files (declared.map (·.statement label)) bound =
      some (bindAll declared bound)

namespace Runs

variable {label : String} {files : List Sidecar}

theorem nil : Runs label files [] :=
  fun _ _ _ _ => rfl

theorem append {first second : List Declaration}
    (one : Runs label files first) (other : Runs label files second) :
    Runs label files (first ++ second) := by
  intro distinct legible stored bound
  rw [List.map_append, List.nodup_append] at distinct
  rcases List.forall_mem_append.mp legible with ⟨legibleFirst, legibleSecond⟩
  rcases Stored.append.mp stored with ⟨storedFirst, storedSecond⟩
  rw [List.map_append, execute_append,
    one distinct.1 legibleFirst storedFirst, Option.bind_some,
    other distinct.2.1 legibleSecond storedSecond, bindAll_append]

/-- An object runs behind the declarations of what it refers to. -/
theorem object (declaration : Declaration)
    (below : Runs label files (entriesDeclarations declaration.entries)) :
    Runs label files
      (entriesDeclarations declaration.entries ++ [declaration]) := by
  intro distinct legible stored bound
  rw [List.map_append, List.nodup_append] at distinct
  rcases List.forall_mem_append.mp legible with ⟨legibleBelow, legibleOwn⟩
  rcases Stored.append.mp stored with ⟨storedBelow, storedOwn⟩
  -- everything the object refers to was bound by the declarations below it
  have built :=
    object?_statement (List.forall_mem_singleton.mp legibleOwn) storedOwn
      (binds_bindAll distinct.1 bound)
  rw [List.map_append, execute_append,
    below distinct.1 legibleBelow storedBelow, Option.bind_some,
    bindAll_append]
  simp only [List.map_cons, List.map_nil, execute, built,
    Option.bind_eq_bind, Option.bind_some]
  rfl

end Runs

mutual

theorem runs_declarations (label : String) (files : List Sidecar)
    (property : String) :
    ∀ node : Node, Runs label files (declarations property node)
  | .dictionary entries =>
      Runs.object ⟨property, entries, none⟩
        (runs_entriesDeclarations label files entries)
  | .stream entries payload =>
      Runs.object ⟨property, entries, some payload⟩
        (runs_entriesDeclarations label files entries)
  | .array items => runs_itemsDeclarations label files property items
  | .float _ => Runs.nil
  | .integer _ => Runs.nil
  | .name _ => Runs.nil
  | .string _ => Runs.nil
  | .boolean _ => Runs.nil
  | .null => Runs.nil

theorem runs_itemsDeclarations (label : String) (files : List Sidecar)
    (property : String) :
    ∀ items : List Node, Runs label files (itemsDeclarations property items)
  | [] => Runs.nil
  | item :: items =>
      (runs_declarations label files property item).append
        (runs_itemsDeclarations label files property items)

theorem runs_entriesDeclarations (label : String) (files : List Sidecar) :
    ∀ entries : List (String × Node),
      Runs label files (entriesDeclarations entries)
  | [] => Runs.nil
  | (key, value) :: entries =>
      (runs_declarations label files key value).append
        (runs_entriesDeclarations label files entries)

end

/-- Running the tree of a graph rebuilds the graph with rounded numbers. -/
theorem run_programOf {root : Dictionary} {label : String}
    (distinct :
      ((declarations rootProperty (.dictionary root)).map (·.binding)).Nodup)
    (legible :
      ∀ declaration ∈ declarations rootProperty (.dictionary root),
        declaration.Legible) :
    (programOf root label).run
        (sidecarsOf label (declarations rootProperty (.dictionary root))) =
      some (rounded (.dictionary root)) := by
  have stored :
      Stored label
        (sidecarsOf label (declarations rootProperty (.dictionary root)))
        (declarations rootProperty (.dictionary root)) :=
    fun declaration member payload stream =>
      bytes?_payloadSource distinct member stream
  have executed :=
    runs_declarations label _ rootProperty (.dictionary root) distinct
      legible stored []
  have returned :=
    binds_bindAll distinct [] ⟨rootProperty, root, none⟩
      (by simp [declarations])
  simp only [programOf, Program.run, executed, Option.bind_eq_bind,
    Option.bind_some]
  rw [Declaration.binding, lowerFirst_rootProperty] at returned
  rw [returned, Declaration.object, rounded]

end FontCompiler.Factory
