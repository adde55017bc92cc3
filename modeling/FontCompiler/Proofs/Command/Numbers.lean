import FontCompiler.Proofs.Command.Compiling
import FontCompiler.Proofs.Manifest.Codepoints
import FontCompiler.Proofs.Manifest.Places

/-!
# Numbers of compiled manifests

The generated code of a manifest holds the literal of each number at the place
of the number: the same manifest with another number there is accepted too, and
its code differs in this literal only.

So no number is refused.  A number whose double is rounded out of single
precision has no literal, and its manifest compiles to code that says `inff` at
its place: nothing looks at a number any more once it has been rounded.
-/

namespace FontCompiler.Command

open Factory FontCompiler.Graph Json Manifest

/-! ## Fonts of documents -/

/-- The font of a document, with what its graph is lowered to. -/
def fontOf (document : Document) (graph : Dictionary) : ManifestFont :=
  ⟨document.label, document.encodingWidth, document.cmap, document.substitutions, document.ranges,
    graph, []⟩

section

variable {σ : Type} {read : Reader (StateM σ)} {base : String} {state after : σ}

theorem run_ofDocument_eq_ok_iff {document : Document} {font : ManifestFont} :
    (ManifestFont.ofDocument read base document).run state = (.ok font, after) ↔
      Code.isIdentifier document.label = true ∧
        ∃ graph, Gives (lowerEntries read base ["graph"] document.graph) state graph after ∧
          font = fontOf document graph := by
  rw [ManifestFont.ofDocument]
  cases identifier : Code.isIdentifier document.label with
  | false =>
      refine iff_of_false ?_ ?_
      · intro same
        cases same
      · rintro ⟨same, -⟩
        cases same
  | true =>
      rw [Bool.not_true, if_neg Bool.false_ne_true, StateT.run_bind]
      simp only [Gives]
      rcases (lowerEntries read base ["graph"] document.graph).run.run state with
        ⟨lowered, left⟩
      cases lowered with
      | error fault =>
          refine iff_of_false ?_ ?_
          · intro same
            cases same
          · rintro ⟨-, graph, same, -⟩
            cases same
      | ok graph =>
          constructor
          · intro same
            cases same
            exact ⟨trivial, graph, rfl, rfl⟩
          · rintro ⟨-, graph, same, rfl⟩
            cases same
            rfl

end

/-! ## Code of documents -/

theorem graph_of_requestAll (requests : List (Nat × Nat)) :
    ∀ subset : Subset ManifestFont,
      (subset.requestAll requests).font.graph = subset.font.graph := by
  induction requests with
  | nil => exact fun subset => rfl
  | cons request requests ih => exact fun subset => (ih _).trans (graph_of_request subset _ _)

/-- The ranges that are added to the font of a document. -/
def rangesOf (requests : List (Nat × Nat)) (document : Document) : List Encoder.GlyphRange :=
  ((Subset.ofFont (fontOf document [])).requestAll requests).ranges

theorem ranges_fontOf (requests : List (Nat × Nat)) (document : Document) (graph : Dictionary) :
    ((Subset.ofFont (fontOf document graph)).requestAll requests).ranges =
      rangesOf requests document := by
  have same : Subset.SameAnswers (fontOf document graph) (fontOf document []) := ⟨rfl, rfl, rfl⟩
  exact Subset.SameAnswers.ranges_requestAll Subset.steady_manifestFont requests same rfl

theorem result_fontOf (document : Document) {graph : Dictionary} {label : String}
    {product : Product} (written : Factory.compile graph label = .ok product)
    (requests : List (Nat × Nat)) :
    (((Subset.ofFont (fontOf document graph)).requestAll requests).compile label).result =
      .ok ⟨label, product.source ++ Encoder.source label (rangesOf requests document),
        product.sidecars⟩ := by
  have graph : (Subset.ofFont (fontOf document graph)).font.graph = graph := rfl
  rw [result_compile, graph_of_requestAll, graph, written, ranges_fontOf]
  rfl

section

variable {σ : Type} (read : Reader (StateM σ)) (base : String) (state : σ)
  (requests : List (Nat × Nat)) (label : String)

/-- A document gives a font that compiles to a text, behind a row of requests. -/
def CompilesTo (document : Document) (source : String) : Prop :=
  ∃ font after own,
    (ManifestFont.ofDocument read base document).run state = (.ok font, after) ∧
      (((Subset.ofFont font).requestAll requests).compile label).result = .ok own ∧
      own.source = source

variable {read base state requests label}

theorem compilesTo_iff {document : Document} {source : String} :
    CompilesTo read base state requests label document source ↔
      Code.isIdentifier document.label = true ∧
        ∃ graph after product,
          Gives (lowerEntries read base ["graph"] document.graph) state graph after ∧
            Factory.compile graph label = .ok product ∧
            product.source ++ Encoder.source label (rangesOf requests document) = source := by
  constructor
  · rintro ⟨font, after, own, accepted, compiled, source⟩
    rcases run_ofDocument_eq_ok_iff.mp accepted with ⟨identifier, graph, gives, rfl⟩
    rcases exists_product_of_compile compiled with ⟨product, written, rfl⟩
    rw [graph_of_requestAll] at written
    rw [ranges_fontOf] at source
    exact ⟨identifier, graph, after, product, gives, written, source⟩
  · rintro ⟨identifier, graph, after, product, gives, written, source⟩
    have accepted := run_ofDocument_eq_ok_iff.mpr ⟨identifier, graph, gives, rfl⟩
    have compiled := result_fontOf document written requests
    exact ⟨fontOf document graph, after, _, accepted, compiled, source⟩

theorem CompilesTo.unique {document : Document} {source other : String}
    (compiles : CompilesTo read base state requests label document source)
    (compiles' : CompilesTo read base state requests label document other) : source = other := by
  rcases compiles with ⟨font, after, own, accepted, compiled, rfl⟩
  rcases compiles' with ⟨font', after', own', accepted', compiled', rfl⟩
  rw [accepted] at accepted'
  cases accepted'
  rw [compiled] at compiled'
  cases compiled'
  rfl

/-- The document with a number at a place of its graph. -/
def withNumber (document : Document) (front : List (String × Value)) (key : String)
    (place : NumberPlace) (back : List (String × Value)) (number : Number) : Document :=
  { document with graph := front ++ (key, place.fill number) :: back }

theorem compilesTo_withNumber {document : Document} {front back : List (String × Value)}
    {key : String} {place : NumberPlace} {number : Number} {source : String}
    (outside : place.OutsidePayload)
    (distinct : ((NumberPlace.entry front key place back).fill number).KeysDistinct)
    (compiles : CompilesTo read base state requests label
      (withNumber document front key place back number) source) :
    ∃ before behind, ∀ other,
      CompilesTo read base state requests label (withNumber document front key place back other)
        (before ++ numberLiteral other ++ behind) := by
  rcases compilesTo_iff.mp compiles with
    ⟨identifier, graph, after, product, gives, written, -⟩
  have uniform :
      Uniform (EntriesSlot numberLiteral) fun other =>
        lowerEntries read base ["graph"] (front ++ (key, place.fill other) :: back) :=
    uniform_entries ["graph"] front key back place outside
      fun other => NumberPlace.keysDistinct_of_entry (NumberPlace.keysDistinct_fill other distinct)
  rcases uniform number state graph after gives with ⟨graphs, slot, rfl, all⟩
  rcases slot.compile written with ⟨before, behind, sources⟩
  let encoder := Encoder.source label (rangesOf requests document)
  refine ⟨before, behind ++ encoder, fun other => compilesTo_iff.mpr ?_⟩
  rcases sources other with ⟨product', written', source⟩
  refine ⟨identifier, graphs other, after, product', all other, written', ?_⟩
  rw [source, String.append_assoc]
  rfl

end

/-! ## Literals in the code -/

/--
Each number of the graph of an accepted manifest that compiles, outside the
bytes of payloads, stands in the code as its literal, at its place: around the
literal the code is the same for every number there, and no number is refused.
A number that fits has the digits of its integer or the form of a float literal,
and every other one is a word for infinity or for what is no number.
-/
theorem compile_writes_number {σ : Type} {read : Reader (StateM σ)} {base : String}
    {state after : σ} {value : Value} {document : Document} {font : ManifestFont}
    {requests : List (Nat × Nat)} {label : String} {own : CompiledFont}
    {front back : List (String × Value)} {key : String} {place : NumberPlace} {number : Number}
    (decoded : Document.ofValue value = .ok document)
    (graph : document.graph = front ++ (key, place.fill number) :: back)
    (outside : place.OutsidePayload)
    (accepted : (ManifestFont.ofValue read base value).run state = (.ok font, after))
    (compiled : (((Subset.ofFont font).requestAll requests).compile label).result = .ok own) :
    (∃ before behind,
      own.source = before ++ numberLiteral number ++ behind ∧
        ∀ other,
          CompilesTo read base state requests label
            (withNumber document front key place back other)
            (before ++ numberLiteral other ++ behind)) ∧
      (FitsLiteral number → WellFormed number (numberLiteral number)) ∧
      (¬ FitsLiteral number →
        ¬ WellFormed number (numberLiteral number) ∧
          numberLiteral number ∈ wordsOfNonFinite) := by
  have distinct := (Decoded.ofValue value decoded).keysDistinct
  rw [graph] at distinct
  rw [ManifestFont.ofValue, decoded] at accepted
  have compiles :
      CompilesTo read base state requests label
        (withNumber document front key place back number) own.source := by
    rw [withNumber, ← graph]
    exact ⟨font, after, own, accepted, compiled, rfl⟩
  refine ⟨?_, (wellFormed_numberLiteral_iff number).mpr, fun misfit => ⟨?_, ?_⟩⟩
  · rcases compilesTo_withNumber outside distinct compiles with ⟨before, behind, all⟩
    exact ⟨before, behind, compiles.unique (all number), all⟩
  · exact mt (wellFormed_numberLiteral_iff number).mp misfit
  · exact ((numberLiteral_cases number).resolve_left fun fits => misfit fits.1).2

/-- The least power of ten that is rounded out of single precision. -/
def hugeNumber : Number :=
  .float (.ofDecimal false 1 39)

theorem numberLiteral_hugeNumber : numberLiteral hugeNumber = "inff" := by
  decide +kernel

theorem not_isFloatLiteral_inff : ¬ IsFloatLiteral "inff" :=
  not_isFloatLiteral_of_mem List.mem_cons_self

theorem not_wellFormed_hugeNumber : ¬ WellFormed hugeNumber "inff" := by
  rintro (⟨value, same, -⟩ | literal)
  · cases same
  · exact not_isFloatLiteral_inff literal

/-- The place of a number behind another one, in an array below a stream with bytes. -/
def nestedPlace : NumberPlace :=
  .entry [] "$stream" (.entry [] "W" (.item [.number (.int 500)] .here []) [])
    [("$data", .array [.number (.int 7)])]

/-- A document with a number at this place. -/
def nestedDocument (number : Number) : Document :=
  ⟨"Bold", defaultEncodingWidth, [], [], [],
    [("$data", .number (.int 1)), ("Glyphs", nestedPlace.fill number)]⟩

/-- What its graph is lowered to. -/
def nestedGraph (number : Number) : Dictionary :=
  [("$data", .integer 1),
    ("Glyphs", .stream [("W", .array [.integer 500, lowerNumber number])] [7])]

theorem compile_writes_number_nestedDocument :
    ∃ own before behind,
      (((Subset.ofFont (fontOf (nestedDocument hugeNumber) (nestedGraph hugeNumber))).requestAll
        [(65, 65)]).compile "Bold").result = .ok own ∧
        own.source = before ++ "inff" ++ behind ∧
        CompilesTo Files.Store.system.readBytes "" Files.Store.empty [(65, 65)] "Bold"
          (nestedDocument (.int 600)) (before ++ "600" ++ behind) := by
  let value : Value :=
    .object
      [("label", .string "Bold"), ("cmap", .object []),
        ("graph", .object (nestedDocument hugeNumber).graph)]
  have decoded : Document.ofValue value = .ok (nestedDocument hugeNumber) := rfl
  have graph :
      (nestedDocument hugeNumber).graph =
        [("$data", .number (.int 1))] ++ ("Glyphs", nestedPlace.fill hugeNumber) :: [] :=
    rfl
  have outside : nestedPlace.OutsidePayload :=
    ⟨fun same => absurd same (by decide), fun same => absurd same (by decide), trivial⟩
  have accepted :
      (ManifestFont.ofValue Files.Store.system.readBytes "" value).run Files.Store.empty =
        (.ok (fontOf (nestedDocument hugeNumber) (nestedGraph hugeNumber)),
          Files.Store.empty) :=
    rfl
  have fit :
      firstOffence? (preorder rootProperty (.dictionary (nestedGraph hugeNumber))) = none := by
    decide +kernel
  rcases exists_product_of_fit fit "Bold" with ⟨product, written⟩
  have compiled := result_fontOf (nestedDocument hugeNumber) written [(65, 65)]
  rcases (compile_writes_number decoded graph outside accepted compiled).1 with
    ⟨before, behind, source, all⟩
  rw [numberLiteral_hugeNumber] at source
  exact ⟨_, before, behind, compiled, source, all (.int 600)⟩

/-- A document with nothing but this number. -/
def overflowingDocument : Document :=
  ⟨"Bold", defaultEncodingWidth, [], [], [], [("A", .number hugeNumber)]⟩

/-- A manifest with a number beyond single precision is accepted, and compiles to code that has no
literal in the place of the number. -/
theorem not_wellFormed_overflowingDocument :
    ∃ font own before behind,
      (ManifestFont.ofValue Files.Store.system.readBytes ""
          (.object
            [("label", .string "Bold"), ("cmap", .object []),
              ("graph", .object overflowingDocument.graph)])).run Files.Store.empty =
        (.ok font, Files.Store.empty) ∧
        ((Subset.ofFont font).compile font.label).result = .ok own ∧
        own.source =
          before ++ "                \x7b \"A\", inff \x7d,\n" ++ behind ∧
        ¬ WellFormed hugeNumber "inff" := by
  let graph : Dictionary := [("A", lowerNumber hugeNumber)]
  have fit : firstOffence? (preorder rootProperty (.dictionary graph)) = none := by
    decide +kernel
  rcases exists_product_of_fit fit "Bold" with ⟨product, written⟩
  have compiled := result_fontOf overflowingDocument written []
  let declaration : Declaration := ⟨rootProperty, graph, none⟩
  have entries : entriesText graph = "                \x7b \"A\", inff \x7d,\n" := by
    decide +kernel
  refine
    ⟨fontOf overflowingDocument graph, _,
      prologueText "Bold" ++ Declaration.openingText declaration.typeName declaration.binding,
      declaration.closingText "Bold" ++ epilogueText ++ Encoder.source "Bold" [], rfl, compiled,
      ?_, not_wellFormed_hugeNumber⟩
  have text :
      declarationsText "Bold" (declarations rootProperty (.dictionary graph)) =
        declaration.text "Bold" :=
    declarationsText_singleton "Bold" declaration
  rw [compile_source written, factoryText, text, Declaration.text, ← entries]
  simp only [String.append_assoc]
  rfl

end FontCompiler.Command
