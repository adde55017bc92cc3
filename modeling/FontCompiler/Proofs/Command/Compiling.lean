import FontCompiler.Command.Run
import FontCompiler.Proofs.Command.Session
import FontCompiler.Proofs.Command.Stored
import FontCompiler.Proofs.Factory.FileNames
import FontCompiler.Proofs.Subset.Requests

/-!
# The work on fonts

Fonts are compiled one after the other, and the sidecars of each are written
before the next one is looked at.  The work ends when all fonts are done, at a
font that cannot be compiled, or at a sidecar that cannot be written.  What was
written up to there stays, and there is a line for every font that is done.
-/

namespace FontCompiler.Command

open Factory Files Manifest

/-! ## Compiled fonts -/

/-- The declarations of the graph of a font. -/
def declared (font : ManifestFont) : List Declaration :=
  declarations rootProperty (.dictionary font.graph)

theorem graph_of_selectGlyphs (count : Nat) :
    ∀ (codepoint : Nat) (selected : List UInt16) (font : ManifestFont),
      (Subset.selectGlyphs count codepoint selected font).1.graph = font.graph := by
  induction count with
  | zero =>
      intro codepoint selected font
      rfl
  | succ count ih =>
      intro codepoint selected font
      rw [Subset.selectGlyphs]
      split
      · rfl
      · exact ih _ _ _

theorem graph_of_request (subset : Subset ManifestFont) (first last : Nat) :
    (subset.request first last).subset.font.graph = subset.font.graph := by
  have selected := graph_of_selectGlyphs (last - first + 1) first [] subset.font
  unfold Subset.request
  split
  · rfl
  · split
    · rfl
    · split
      · rename_i found
        rw [found] at selected
        exact selected
      · rename_i found
        rw [found] at selected
        exact selected

theorem graph_of_requestRanges {label : String} :
    ∀ {ranges : List CharacterRange} {subset after : Subset ManifestFont},
      (requestRanges label ranges subset).result = .ok after →
      after.font.graph = subset.font.graph
  | [], subset, after, requested => by
      cases requested
      rfl
  | range :: ranges, subset, after, requested => by
      rw [requestRanges] at requested
      dsimp only at requested
      split at requested
      · cases requested
      · rw [graph_of_requestRanges requested, graph_of_request]

/-- The code of a font is the factory of its graph, with the encoder of the ranges behind it. -/
theorem result_compile (subset : Subset ManifestFont) (label : String) :
    (subset.compile label).result =
      ((Factory.compile subset.font.graph label).mapError fun stop => .factory stop.refusal).map
        fun product =>
          ⟨label, product.source ++ Encoder.source label subset.ranges, product.sidecars⟩ := by
  have reduces : (Font.Service.reduce subset.font).failure = none := rfl
  have graph :
      Font.Service.objectGraph (Font.Service.reduce subset.font).font =
        subset.font.graph :=
    rfl
  unfold Subset.compile Subset.compileFactory
  simp only [reduces, graph]
  cases Factory.compile subset.font.graph label <;> rfl

theorem exists_product_of_compile {subset : Subset ManifestFont} {label : String}
    {own : CompiledFont} (compiled : (subset.compile label).result = .ok own) :
    ∃ product,
      Factory.compile subset.font.graph label = .ok product ∧
        own = ⟨label, product.source ++ Encoder.source label subset.ranges,
          product.sidecars⟩ := by
  rw [result_compile] at compiled
  cases written : Factory.compile subset.font.graph label with
  | error stop =>
      rw [written] at compiled
      cases compiled
  | ok product =>
      rw [written] at compiled
      cases compiled
      exact ⟨product, rfl, rfl⟩

/-- The request for a range. -/
def requestOf (range : CharacterRange) : Nat × Nat :=
  (range.first, range.last)

/-- Requesting ranges succeeds if each request does, and leaves the subset behind them. -/
theorem requestAll_of_requestRanges {label : String} :
    ∀ {ranges : List CharacterRange} {subset after : Subset ManifestFont},
      (requestRanges label ranges subset).result = .ok after →
      subset.requestAll (ranges.map requestOf) = after ∧
        subset.successes (ranges.map requestOf) = ranges.map requestOf
  | [], subset, after, requested => by
      cases requested
      exact ⟨rfl, rfl⟩
  | range :: ranges, subset, after, requested => by
      rw [requestRanges] at requested
      dsimp only at requested
      split at requested
      · cases requested
      · rename_i succeeds
        rcases requestAll_of_requestRanges requested with ⟨behind, others⟩
        refine ⟨behind, ?_⟩
        rw [List.map_cons, requestOf, Subset.successes, others, succeeds]
        rfl

theorem ranges_of_subsetOf {font : ManifestFont} {subset : Subset ManifestFont}
    (requested : (subsetOf font).result = .ok subset) :
    subset.ranges.map Subset.bounds = font.ranges.map requestOf := by
  rcases requestAll_of_requestRanges requested with ⟨rfl, succeed⟩
  rw [(Subset.faithful_run Subset.steady_manifestFont font _).2, succeed]

/-- A compiled font has the factory of its graph, with the encoder of its ranges behind it. -/
theorem exists_product_of_compileFont {font : ManifestFont} {own : CompiledFont}
    (compiled : (compileFont font).result = .ok own) :
    ∃ product ranges,
      Factory.compile font.graph font.label = .ok product ∧
        ranges.map Subset.bounds = font.ranges.map requestOf ∧
        own = ⟨font.label, product.source ++ Encoder.source font.label ranges,
          product.sidecars⟩ := by
  unfold compileFont at compiled
  dsimp only at compiled
  split at compiled
  · cases compiled
  · rename_i subset requested
    have graph : subset.font.graph = font.graph := graph_of_requestRanges requested
    have outcome : (subset.compile font.label).result = .ok own := by
      split at compiled
      · rename_i found result
        cases compiled
        exact result
      · cases compiled
    rcases exists_product_of_compile outcome with ⟨product, written, shape⟩
    rw [graph] at written
    exact ⟨product, subset.ranges, written, ranges_of_subsetOf requested, shape⟩

/-- Fonts and what is compiled of them, one by one. -/
def Compiles (fonts : List ManifestFont) (compiled : List CompiledFont) : Prop :=
  List.Forall₂ (fun font own => (compileFont font).result = .ok own) fonts compiled

/-- The line that tells of a compiled font. -/
def compiledLine (own : CompiledFont) : String :=
  "compiled " ++ own.label ++ " (" ++ Numeric.decimalDigits own.sidecars.length ++
    " sidecar files)"

theorem sidecars_of_compileFont {font : ManifestFont} {own : CompiledFont}
    (compiled : (compileFont font).result = .ok own) :
    own.sidecars = sidecarsOf font.label (declared font) := by
  rcases exists_product_of_compileFont compiled with ⟨product, ranges, written, -, rfl⟩
  exact compile_sidecars written

theorem isName_of_compileFont {font : ManifestFont} {own : CompiledFont}
    (identifier : Code.isIdentifier font.label = true)
    (compiled : (compileFont font).result = .ok own) :
    ∀ sidecar ∈ own.sidecars, IsName sidecar.name := by
  rcases exists_product_of_compileFont compiled with ⟨product, ranges, written, -, rfl⟩
  intro sidecar member
  rw [compile_sidecars written] at member
  rcases exists_of_mem_sidecarsOf member with ⟨declaration, declares, -, -, name⟩
  rw [name]
  exact isName_sidecarName identifier (isIdentifier_of_compile written declaration declares)

/-- A sidecar of one of several fonts. -/
def SidecarOf (fonts : List ManifestFont) (sidecar : Sidecar) : Prop :=
  ∃ font ∈ fonts, ∃ own,
    (compileFont font).result = .ok own ∧ sidecar ∈ own.sidecars

theorem SidecarOf.mono {fonts others : List ManifestFont} {sidecar : Sidecar}
    (within : fonts ⊆ others) (belongs : SidecarOf fonts sidecar) :
    SidecarOf others sidecar := by
  rcases belongs with ⟨font, member, own⟩
  exact ⟨font, within member, own⟩

theorem SidecarOf.isName {fonts : List ManifestFont} {sidecar : Sidecar}
    (labelled : ∀ font ∈ fonts, Code.isIdentifier font.label = true)
    (belongs : SidecarOf fonts sidecar) : IsName sidecar.name := by
  rcases belongs with ⟨font, member, own, compiled, inside⟩
  exact isName_of_compileFont (labelled font member) compiled sidecar inside

/-- A stream of one of several fonts whose payload is stored in a file of its own. -/
structure LargeStream (fonts : List ManifestFont) (font : ManifestFont)
    (declaration : Declaration) (payload : List UInt8) : Prop where
  member : font ∈ fonts
  declares : declaration ∈ declared font
  stream : declaration.payload = some payload
  large : inlineLimit ≤ payload.length

theorem SidecarOf.exists_stream {fonts : List ManifestFont} {sidecar : Sidecar}
    (belongs : SidecarOf fonts sidecar) :
    ∃ font declaration,
      LargeStream fonts font declaration sidecar.bytes ∧
        sidecar.name = sidecarName font.label declaration.property := by
  rcases belongs with ⟨font, member, own, succeeds, inside⟩
  rw [sidecars_of_compileFont succeeds] at inside
  rcases exists_of_mem_sidecarsOf inside with
    ⟨declaration, declares, stream, large, name⟩
  exact ⟨font, declaration, ⟨member, declares, stream, large⟩, name⟩

theorem Compiles.sidecarOf {fonts : List ManifestFont} {compiled : List CompiledFont}
    (all : Compiles fonts compiled) :
    ∀ sidecar ∈ compiled.flatMap (·.sidecars), SidecarOf fonts sidecar := by
  induction all with
  | nil => exact nofun
  | @cons font own fonts compiled succeeds others ih =>
      rw [List.flatMap_cons, List.forall_mem_append]
      exact
        ⟨fun sidecar inside => ⟨font, List.mem_cons_self, own, succeeds, inside⟩,
          fun sidecar inside => (ih sidecar inside).mono (List.subset_cons_self _ _)⟩

/-! ## Writing sidecars -/

variable {system : System (StateM Store)} (careful : Careful system)

/-- How the writing of sidecars ends. -/
inductive Writing (directory : String) (sidecars : List Sidecar) (transcript : Transcript)
    (store : Store) : Ending Unit → Prop
  | done {records : List Log.Record} {after : Store}
      (stored : Stored directory sidecars store after) :
      Writing directory sidecars transcript store
        ⟨.ok (), transcript.logged records, after⟩
  | stopped {written others : List Sidecar} {sidecar : Sidecar} {cause : Files.Failure}
      {records : List Log.Record} {after : Store}
      (row : sidecars = written ++ sidecar :: others)
      (stored : Stored directory written store after) :
      Writing directory sidecars transcript store
        ⟨.error (.writeSidecar sidecar.name cause), transcript.logged records, after⟩

include careful in
theorem writing (directory : String) (sidecars : List Sidecar) :
    ∀ (transcript : Transcript) (store : Store),
      Writing directory sidecars transcript store
        (Session.ending (writeSidecars system directory sidecars) transcript store) := by
  induction sidecars with
  | nil =>
      intro transcript store
      have ended :
          Session.ending (writeSidecars system directory []) transcript store =
            ⟨.ok (), transcript.logged [], store⟩ := by
        rw [Transcript.logged_nil]
        rfl
      rw [ended]
      exact .done (.nil store)
  | cons sidecar sidecars ih =>
      intro transcript store
      rw [writeSidecars]
      rcases
          careful.writeBytes (join directory sidecar.name) sidecar.bytes store with
        ⟨between, written, ran⟩ | ⟨cause, ran⟩
      · rw [Session.ending_bind_of_ok (Session.ending_require_of_ok ran),
          Session.ending_bind_of_ok (Session.ending_log _)]
        have others :=
          ih (transcript.logged
            [writtenRecord (join directory sidecar.name) sidecar.bytes.length]) between
        generalize Session.ending (writeSidecars system directory sidecars) _ between =
          ending at others ⊢
        cases others with
        | done stored =>
            rw [Transcript.logged_logged]
            exact .done (.cons written stored)
        | stopped row stored =>
            rw [Transcript.logged_logged]
            exact .stopped (congrArg (sidecar :: ·) row) (.cons written stored)
      · rw [Session.ending_bind_of_error (Session.ending_require_of_error ran)]
        have stop :
            Writing directory (sidecar :: sidecars) transcript store
              ⟨.error (.writeSidecar sidecar.name cause), transcript.logged [],
                store⟩ :=
          .stopped (List.nil_append _).symm (.nil store)
        rw [Transcript.logged_nil] at stop
        exact stop

/-! ## Compiling fonts -/

/-- What interrupts the work on fonts, behind compiled fonts and written sidecars. -/
inductive Interrupts (fonts : List ManifestFont) (failure : Failure) :
    List CompiledFont → List Sidecar → Prop
  | refused {front back : List ManifestFont} {font : ManifestFont}
      {compiled : List CompiledFont}
      (row : fonts = front ++ font :: back)
      (before : Compiles front compiled)
      (refusal : (compileFont font).result = .error failure) :
      Interrupts fonts failure compiled (compiled.flatMap (·.sidecars))
  | unwritten {front back : List ManifestFont} {font : ManifestFont}
      {compiled : List CompiledFont} {own : CompiledFont}
      {written others : List Sidecar} {sidecar : Sidecar} {cause : Files.Failure}
      (row : fonts = front ++ font :: back)
      (before : Compiles front compiled)
      (succeeds : (compileFont font).result = .ok own)
      (part : own.sidecars = written ++ sidecar :: others)
      (reason : failure = .writeSidecar sidecar.name cause) :
      Interrupts fonts failure compiled (compiled.flatMap (·.sidecars) ++ written)

theorem Interrupts.cons {fonts : List ManifestFont} {failure : Failure}
    {compiled : List CompiledFont} {written : List Sidecar} {font : ManifestFont}
    {own : CompiledFont} (succeeds : (compileFont font).result = .ok own)
    (interrupts : Interrupts fonts failure compiled written) :
    Interrupts (font :: fonts) failure (own :: compiled) (own.sidecars ++ written) := by
  cases interrupts with
  | refused row before refusal =>
      exact .refused (congrArg (font :: ·) row) (.cons succeeds before) refusal
  | unwritten row before ownSucceeds part reason =>
      rw [← List.append_assoc]
      exact
        .unwritten (congrArg (font :: ·) row) (.cons succeeds before) ownSucceeds part
          reason

theorem Interrupts.sidecarOf {fonts : List ManifestFont} {failure : Failure}
    {compiled : List CompiledFont} {written : List Sidecar}
    (interrupts : Interrupts fonts failure compiled written) :
    ∀ sidecar ∈ written, SidecarOf fonts sidecar := by
  cases interrupts with
  | refused row before refusal =>
      intro sidecar member
      rw [row]
      exact (before.sidecarOf sidecar member).mono (List.subset_append_left _ _)
  | unwritten row before succeeds part reason =>
      rw [List.forall_mem_append, row]
      refine ⟨?_, ?_⟩
      · intro sidecar member
        exact (before.sidecarOf sidecar member).mono (List.subset_append_left _ _)
      · intro sidecar member
        refine ⟨_, List.mem_append_right _ List.mem_cons_self, _, succeeds, ?_⟩
        rw [part]
        exact List.mem_append_left _ member

/-- How the work on fonts ends. -/
inductive Compiling (directory : String) (fonts : List ManifestFont)
    (transcript : Transcript) (store : Store) : Ending String → Prop
  | done {compiled : List CompiledFont} {later : Transcript} {after : Store}
      (all : Compiles fonts compiled)
      (stored : Stored directory (compiled.flatMap (·.sidecars)) store after)
      (told : transcript.Tells (compiled.map compiledLine) later) :
      Compiling directory fonts transcript store
        ⟨.ok (String.join (compiled.map (·.source))), later, after⟩
  | stopped {failure : Failure} {compiled : List CompiledFont} {written : List Sidecar}
      {later : Transcript} {after : Store}
      (interrupts : Interrupts fonts failure compiled written)
      (stored : Stored directory written store after)
      (told : transcript.Tells (compiled.map compiledLine) later) :
      Compiling directory fonts transcript store ⟨.error failure, later, after⟩

/-- The work on a font goes in front of the work on the others. -/
theorem Compiling.cons {directory : String} {font : ManifestFont}
    {fonts : List ManifestFont} {own : CompiledFont} {transcript middle : Transcript}
    {store between : Store} {others : Session (StateM Store) String}
    (succeeds : (compileFont font).result = .ok own)
    (stored : Stored directory own.sidecars store between)
    (told : transcript.Tells [compiledLine own] middle)
    (behind :
      Compiling directory fonts middle between (Session.ending others middle between)) :
    Compiling directory (font :: fonts) transcript store
      (Session.ending (do return own.source ++ (← others)) middle between) := by
  generalize ran : Session.ending others middle between = ending at behind
  cases behind with
  | done all storedOthers toldOthers =>
      rw [Session.ending_bind_of_ok ran, Session.ending_pure, ← String.join_cons,
        ← List.map_cons]
      exact
        .done (.cons succeeds all) (stored.append storedOthers)
          (told.trans toldOthers)
  | stopped interrupts storedOthers toldOthers =>
      rw [Session.ending_bind_of_error ran]
      exact
        .stopped (interrupts.cons succeeds) (stored.append storedOthers)
          (told.trans toldOthers)

/-- Behind a font whose sidecars are written, the work goes on with the others. -/
theorem ending_compileFonts_cons {directory : String} {font : ManifestFont}
    {fonts : List ManifestFont} {own : CompiledFont} {transcript later : Transcript}
    {store between : Store} (succeeds : (compileFont font).result = .ok own)
    (wrote :
      Session.ending (writeSidecars system directory own.sidecars)
          (transcript.logged (compileFont font).records) store =
        ⟨.ok (), later, between⟩) :
    Session.ending (compileFonts system directory (font :: fonts)) transcript store =
      Session.ending (do return own.source ++ (← compileFonts system directory fonts))
        { later with events := later.events ++ [.line (compiledLine own)] } between := by
  have settled :
      Session.ending (Session.settle (compileFont font)) transcript store =
        ⟨.ok own, transcript.logged (compileFont font).records, store⟩ := by
    rw [Session.ending_settle, succeeds]
  have line :
      "compiled " ++ font.label ++ " (" ++
          Numeric.decimalDigits own.sidecars.length ++ " sidecar files)" =
        compiledLine own := by
    rcases exists_product_of_compileFont succeeds with ⟨_, _, _, _, rfl⟩
    rfl
  rw [compileFonts, Session.ending_bind_of_ok settled, Session.ending_bind_of_ok wrote,
    Session.ending_bind_of_ok (Session.ending_line _), line]

include careful in
theorem compiling (directory : String) (fonts : List ManifestFont) :
    ∀ (transcript : Transcript) (store : Store),
      Compiling directory fonts transcript store
        (Session.ending (compileFonts system directory fonts) transcript store) := by
  induction fonts with
  | nil =>
      intro transcript store
      have done :
          Compiling directory [] transcript store
            ⟨.ok (String.join (([] : List CompiledFont).map (·.source))),
              transcript.logged [], store⟩ :=
        .done .nil (.nil store) (.logged transcript [])
      rw [Transcript.logged_nil] at done
      exact done
  | cons font fonts ih =>
      intro transcript store
      have logged := Transcript.Tells.logged transcript (compileFont font).records
      have settled :
          Session.ending (Session.settle (compileFont font)) transcript store =
            ⟨(compileFont font).result, transcript.logged (compileFont font).records,
              store⟩ :=
        Session.ending_settle _
      cases result : (compileFont font).result with
      | error failure =>
          rw [result] at settled
          rw [compileFonts, Session.ending_bind_of_error settled]
          exact
            .stopped (.refused (List.nil_append _).symm .nil result) (.nil store) logged
      | ok own =>
          rw [result] at settled
          have wrote :=
            writing careful directory own.sidecars
              (transcript.logged (compileFont font).records) store
          generalize ran : Session.ending (writeSidecars system directory own.sidecars)
            (transcript.logged (compileFont font).records) store = ending at wrote
          cases wrote with
          | stopped part stored =>
              rw [compileFonts, Session.ending_bind_of_ok settled,
                Session.ending_bind_of_error ran]
              exact
                .stopped (.unwritten (List.nil_append _).symm .nil result part rfl)
                  stored (logged.trans (.logged _ _))
          | @done records between stored =>
              rw [ending_compileFonts_cons result ran]
              exact
                .cons result stored ((logged.trans (.logged _ records)).trans (.line _ _))
                  (ih _ between)

end FontCompiler.Command
