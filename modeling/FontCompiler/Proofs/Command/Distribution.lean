import FontCompiler.Proofs.Command.Generation

/-!
# Generations of several inputs

On a store nothing but the store decides how an operation ends.  All fonts are
loaded before the first sidecar is written, and sidecars bring no directories.
So a generation of two rows of inputs, each of which has a generation of its
own, does what those do one after the other: it prints their source texts in a
row, and the sidecars of the second row go over those of the first.

What runs the filters may change with the moment: a filter can ask for the time.
The generations take place at moments of their own, so this holds of filters that
give the same documents at all of them.
-/

namespace FontCompiler.Command

open Factory Files Manifest

/-! ## Loading -/

section

variable {m : Type → Type} [Monad m] (system : System m) {runner other : Query.Runner}

/-- Nothing but what a runner makes of the filter at hand counts. -/
theorem loadPath_congr {filter : Option String}
    (same : ∀ text ∈ filter, runner text = other text) (path : String) :
    loadPath system runner filter path = loadPath system other filter path := by
  cases filter with
  | none => rfl
  | some text =>
      rw [loadPath, loadPath, loadFiltered, loadFiltered, same text rfl]

theorem loadPaths_congr {filter : Option String}
    (same : ∀ text ∈ filter, runner text = other text) (paths : List String) :
    loadPaths system runner filter paths = loadPaths system other filter paths := by
  induction paths with
  | nil => rfl
  | cons path paths ih => rw [loadPaths, loadPaths, loadPath_congr system same, ih]

theorem load_congr {sources : Sources}
    (same : ∀ text ∈ sources.filter, runner text = other text) :
    sources.load system runner = sources.load system other := by
  simp only [Sources.load, loadPaths_congr system same]

variable [LawfulMonad m]

theorem expandPatterns_append (first second : List String) :
    expandPatterns system (first ++ second) = do
      let paths ← expandPatterns system first
      return paths ++ (← expandPatterns system second) := by
  induction first with
  | nil => simp [expandPatterns]
  | cons text first ih =>
      simp only [List.cons_append, expandPatterns, ih, bind_assoc, pure_bind,
        List.append_assoc]

theorem loadPaths_append (filter : Option String) (first second : List String) :
    loadPaths system runner filter (first ++ second) = do
      let fonts ← loadPaths system runner filter first
      return fonts ++ (← loadPaths system runner filter second) := by
  induction first with
  | nil => simp [loadPaths]
  | cons path first ih =>
      simp only [List.cons_append, loadPaths, ih, bind_assoc, pure_bind, List.append_assoc]

end

/-- Two rows of inputs that can be loaded can be loaded in one row. -/
theorem gives_load_append {system : System (StateM Store)} (careful : Careful system)
    {runner : Query.Runner} {filter : Option String} {first second : List String} {store : Store}
    {fonts others : List ManifestFont}
    (gives : Session.Gives (Sources.load system runner ⟨filter, first⟩) store fonts)
    (givesOthers : Session.Gives (Sources.load system runner ⟨filter, second⟩) store others) :
    Session.Gives (Sources.load system runner ⟨filter, first ++ second⟩) store
      (fonts ++ others) := by
  have split {texts : List String} {loaded : List ManifestFont}
      (gives : Session.Gives (Sources.load system runner ⟨filter, texts⟩) store loaded) :
      ∃ paths, Session.Gives (expandPatterns system texts) store paths ∧
        Session.Gives (loadPaths system runner filter paths) store loaded :=
    (reads_expandPatterns careful texts).exists_of_gives_bind
      (fun paths => reads_loadPaths careful filter paths) gives
  rcases split gives with ⟨paths, expands, loads⟩
  rcases split givesOthers with ⟨otherPaths, expandsOthers, loadsOthers⟩
  have expandsBoth :
      Session.Gives (expandPatterns system (first ++ second)) store (paths ++ otherPaths) := by
    rw [expandPatterns_append]
    exact expands.bind (expandsOthers.bind (.pure _))
  have loadsBoth :
      Session.Gives (loadPaths system runner filter (paths ++ otherPaths)) store
        (fonts ++ others) := by
    rw [loadPaths_append]
    exact loads.bind (loadsOthers.bind (.pure _))
  exact expandsBoth.bind loadsBoth

/-! ## The work on fonts -/

section

variable {directory : String} {store after : Store}

theorem writeBytes_system {path : String} {bytes : List UInt8}
    (written : store.writeBytes path bytes = .ok after) :
    (Store.system.writeBytes path bytes).run store = (.ok (), after) := by
  rw [Store.system, StateT.run_modifyGet, written]
  rfl

theorem exists_writing_of_stored {sidecars : List Sidecar}
    (stored : Stored directory sidecars store after) :
    ∀ transcript, ∃ records,
      Session.ending (writeSidecars Store.system directory sidecars) transcript store =
        ⟨.ok (), transcript.logged records, after⟩ := by
  induction stored with
  | nil store =>
      intro transcript
      exact ⟨[], by rw [Transcript.logged_nil]; rfl⟩
  | @cons sidecar sidecars before between after written others ih =>
      intro transcript
      let record := writtenRecord (join directory sidecar.name) sidecar.bytes.length
      rcases ih (transcript.logged [record]) with ⟨records, ended⟩
      refine ⟨[record] ++ records, ?_⟩
      rw [writeSidecars,
        Session.ending_bind_of_ok (Session.ending_require_of_ok (writeBytes_system written)),
        Session.ending_bind_of_ok (Session.ending_log _), ended, Transcript.logged_logged]

/-- Fonts that can be compiled are worked on to the end where their sidecars can be stored. -/
theorem exists_compiling {fonts : List ManifestFont} {compiled : List CompiledFont}
    (all : Compiles fonts compiled) :
    ∀ {store : Store}, Stored directory (compiled.flatMap (·.sidecars)) store after →
      ∀ transcript : Transcript, ∃ later,
        Session.ending (compileFonts Store.system directory fonts) transcript store =
            ⟨.ok (String.join (compiled.map (·.source))), later, after⟩ ∧
          transcript.Tells (compiled.map compiledLine) later := by
  induction all with
  | nil =>
      intro store stored transcript
      cases stored
      exact ⟨transcript, rfl, .refl transcript⟩
  | @cons font own fonts compiled succeeds others ih =>
      intro store stored transcript
      rw [List.flatMap_cons] at stored
      rcases stored.exists_of_append with ⟨between, ownStored, othersStored⟩
      have logged := Transcript.Tells.logged transcript (compileFont font).records
      rcases exists_writing_of_stored ownStored
        (transcript.logged (compileFont font).records) with ⟨records, wrote⟩
      have told := (logged.trans (.logged _ records)).trans (.line _ (compiledLine own))
      rcases ih othersStored _ with ⟨later, ended, toldOthers⟩
      refine ⟨later, ?_, told.trans toldOthers⟩
      rw [ending_compileFonts_cons succeeds wrote, Session.ending_bind_of_ok ended,
        Session.ending_pure, ← String.join_cons, ← List.map_cons]

end

/-! ## Runs that print -/

theorem run_eq_success_iff {runner : Query.Runner} {invocation : Invocation}
    {store after : Store} {transcript : Transcript} :
    (invocation.runWith Store.system runner).run store = (⟨transcript, none⟩, after) ↔
      Session.ending (invocation.perform Store.system runner) .empty store =
        ⟨.ok (), transcript, after⟩ := by
  unfold Invocation.runWith Session.ending
  rw [StateT.run_bind]
  rcases ((invocation.perform Store.system runner).run.run .empty).run store with
    ⟨⟨result, later⟩, left⟩
  cases result with
  | ok done =>
      constructor
      · intro ran
        cases ran
        rfl
      · intro ended
        cases ended
        rfl
  | error failure => exact ⟨nofun, nofun⟩

/-- The generation of a source text that is printed. -/
def printing (filter directory : Option String) (texts : List String) : Generation :=
  ⟨⟨filter, texts⟩, none, directory, false⟩

/-- A generation loads fonts, compiles each of them by itself, and stores their sidecars. -/
structure Produces (runner : Query.Runner) (generation : Generation) (store : Store)
    (fonts : List ManifestFont) (compiled : List CompiledFont) (begun after : Store) : Prop where
  prepared :
    Session.ending (generation.prepare Store.system) .empty store = ⟨.ok (), .empty, begun⟩
  gives : Session.Gives (generation.sources.load Store.system runner) begun fonts
  compiles : Compiles fonts compiled
  stored : Stored generation.sidecarDirectory (compiled.flatMap (·.sidecars)) begun after

/-- What is reported when compiled fonts are printed: their source texts in a row, and a line for
each of them. -/
structure Printed (compiled : List CompiledFont) (transcript : Transcript) : Prop where
  output : transcript.output = String.join (compiled.map (·.source))
  said : transcript.said = compiled.map compiledLine

theorem printed_of_tells {compiled : List CompiledFont} {records : List Log.Record}
    {later : Transcript}
    (told : (Transcript.empty.logged records).Tells (compiled.map compiledLine) later) :
    Printed compiled
      { later with output := later.output ++ String.join (compiled.map (·.source)) } := by
  refine ⟨?_, ?_⟩
  · dsimp only
    rw [told.output]
    exact String.empty_append
  · change later.said = _
    rw [told.said, Transcript.said_logged, Transcript.said_empty, List.nil_append]

theorem ending_deliver_none {source : String} {transcript : Transcript} {store : Store} :
    Session.ending (deliver Store.system none source) transcript store =
      ⟨.ok (), { transcript with output := transcript.output ++ source }, store⟩ :=
  rfl

section

variable {runner : Query.Runner} {filter directory : Option String}
  {texts others : List String} {fonts otherFonts : List ManifestFont}
  {compiled otherCompiled : List CompiledFont}
  {store begun after otherAfter : Store}

theorem exists_produces {transcript : Transcript}
    (ended :
      Session.ending ((printing filter directory texts).run Store.system runner) .empty store =
        ⟨.ok (), transcript, after⟩) :
    ∃ fonts compiled begun,
      Produces runner (printing filter directory texts) store fonts compiled begun after ∧
        Printed compiled transcript := by
  rcases Session.exists_of_ending_bind_ok ended with ⟨fonts, loaded, begun, loads, ended⟩
  rcases Session.exists_of_ending_bind_ok ended with
    ⟨source, later, between, works, delivers⟩
  rcases Session.exists_of_ending_bind_ok loads with ⟨done, silent, left, prepared, reads⟩
  rcases exists_preparing careful_system (printing filter directory texts) .empty store with
    ⟨_, _, prepares, -⟩
  cases prepared.symm.trans prepares
  rcases (reads_load careful_system _).gives reads with ⟨rfl, records, gives⟩
  cases reads.symm.trans (gives .empty)
  have work :=
    compiling careful_system (printing filter directory texts).sidecarDirectory fonts
      (Transcript.empty.logged records) begun
  rw [works] at work
  cases work with
  | @done compiled _ _ all stored told =>
      cases ending_deliver_none.symm.trans delivers
      exact
        ⟨fonts, compiled, begun, ⟨prepared, ⟨records, gives⟩, all, stored⟩,
          printed_of_tells told⟩

theorem Produces.exists_ending
    (produces :
      Produces runner (printing filter directory texts) store fonts compiled begun after) :
    ∃ transcript,
      Session.ending ((printing filter directory texts).run Store.system runner) .empty store =
          ⟨.ok (), transcript, after⟩ ∧
        Printed compiled transcript := by
  rcases produces.gives with ⟨records, gives⟩
  rcases exists_compiling produces.compiles produces.stored
    (Transcript.empty.logged records) with ⟨later, works, told⟩
  have loads :
      Session.ending ((printing filter directory texts).load Store.system runner) .empty store =
        ⟨.ok fonts, Transcript.empty.logged records, begun⟩ :=
    (Session.ending_bind_of_ok produces.prepared).trans (gives .empty)
  refine ⟨_, ?_, printed_of_tells told⟩
  rw [Generation.run, Session.ending_bind_of_ok loads, Session.ending_bind_of_ok works]
  exact ending_deliver_none

/-- A generation goes as well with a runner that makes the same of its filter. -/
theorem Produces.congr {other : Query.Runner} {generation : Generation}
    (same : ∀ text ∈ generation.sources.filter, runner text = other text)
    (produces : Produces runner generation store fonts compiled begun after) :
    Produces other generation store fonts compiled begun after := by
  refine ⟨produces.prepared, ?_, produces.compiles, produces.stored⟩
  rw [← load_congr Store.system same]
  exact produces.gives

/-- Two rows of inputs in one generation: the sidecars of the second go over those of the
first. -/
theorem Produces.append
    (first : Produces runner (printing filter directory texts) store fonts compiled begun after)
    {otherBegun : Store}
    (second :
      Produces runner (printing filter directory others) store otherFonts otherCompiled otherBegun
        otherAfter) :
    ∃ last,
      Stored (printing filter directory texts).sidecarDirectory
          (otherCompiled.flatMap (·.sidecars)) after last ∧
        Produces runner (printing filter directory (texts ++ others)) store (fonts ++ otherFonts)
          (compiled ++ otherCompiled) begun last := by
  cases first.prepared.symm.trans second.prepared
  rcases second.stored.exists_of_sameDirectories first.stored.sameDirectories with
    ⟨last, replayed⟩
  refine ⟨last, replayed, first.prepared, ?_, ?_, ?_⟩
  · exact gives_load_append careful_system first.gives second.gives
  · exact List.rel_append first.compiles second.compiles
  · rw [List.flatMap_append]
    exact first.stored.append replayed

theorem Printed.append {first second transcript : Transcript}
    (printed : Printed compiled first) (others : Printed otherCompiled second)
    (all : Printed (compiled ++ otherCompiled) transcript) :
    transcript.output = first.output ++ second.output ∧
      transcript.said = first.said ++ second.said := by
  refine ⟨?_, ?_⟩
  · rw [all.output, printed.output, others.output, List.map_append, String.join_append]
  · rw [all.said, printed.said, others.said, List.map_append]

end

/-! ## Whole runs -/

/-- The filter gives a document the same outputs at all moments; one that reads the clock does
not. -/
def Timeless {Moment : Type} (runnerAt : Moment → Query.Runner) (filter : String) : Prop :=
  ∀ moment other document, runnerAt moment filter document = runnerAt other filter document

section

variable {verbose : Bool} {filter directory : Option String} {texts others : List String}
  {store after otherAfter : Store} {report otherReport : Report}

theorem exists_produces_of_run {runner : Query.Runner}
    (ran :
      ((⟨verbose, .generate (printing filter directory texts)⟩ : Invocation).runWith
        Store.system runner).run store = (report, after))
    (succeeded : report.failure = none) :
    ∃ fonts compiled begun,
      Produces runner (printing filter directory texts) store fonts compiled begun after ∧
        Printed compiled report.transcript := by
  rcases report with ⟨transcript, failure⟩
  cases succeeded
  exact exists_produces (run_eq_success_iff.mp ran)

/-- Two rows of inputs that have generations of their own have one in a row: what is printed is
what they print one after the other, and the files are those that the first leaves with the
sidecars of the second over them.  Every font is compiled by itself.  Each of the three runs has
filters run as they are run at its moment, and the filter at hand does not depend on it. -/
theorem generation_distributes {Moment : Type} {runnerAt : Moment → Query.Runner}
    (timeless : ∀ text ∈ filter, Timeless runnerAt text) {moment otherMoment : Moment}
    (ran :
      ((⟨verbose, .generate (printing filter directory texts)⟩ : Invocation).runWith
        Store.system (runnerAt moment)).run store = (report, after))
    (succeeded : report.failure = none)
    (ranOthers :
      ((⟨verbose, .generate (printing filter directory others)⟩ : Invocation).runWith
        Store.system (runnerAt otherMoment)).run store = (otherReport, otherAfter))
    (succeededOthers : otherReport.failure = none) (wholeMoment : Moment) :
    ∃ whole last,
      ((⟨verbose, .generate (printing filter directory (texts ++ others))⟩ :
          Invocation).runWith Store.system (runnerAt wholeMoment)).run store =
          (whole, last) ∧
        whole.failure = none ∧
        whole.transcript.output =
          report.transcript.output ++ otherReport.transcript.output ∧
        whole.transcript.said = report.transcript.said ++ otherReport.transcript.said ∧
        ∃ fonts otherFonts compiled otherCompiled begun,
          Produces (runnerAt moment) (printing filter directory texts) store fonts compiled
              begun after ∧
            Printed compiled report.transcript ∧
            Produces (runnerAt otherMoment) (printing filter directory others) store
              otherFonts otherCompiled begun otherAfter ∧
            Printed otherCompiled otherReport.transcript ∧
            Produces (runnerAt wholeMoment) (printing filter directory (texts ++ others))
              store (fonts ++ otherFonts) (compiled ++ otherCompiled) begun last ∧
            Stored (printing filter directory texts).sidecarDirectory
              (otherCompiled.flatMap (·.sidecars)) after last := by
  have same (before : Moment) :
      ∀ text ∈ filter, runnerAt before text = runnerAt wholeMoment text :=
    fun text given => funext (timeless text given before wholeMoment)
  rcases exists_produces_of_run ran succeeded with
    ⟨fonts, compiled, begun, produces, printed⟩
  rcases exists_produces_of_run ranOthers succeededOthers with
    ⟨otherFonts, otherCompiled, otherBegun, producesOthers, printedOthers⟩
  cases produces.prepared.symm.trans producesOthers.prepared
  rcases (produces.congr (same moment)).append (producesOthers.congr (same otherMoment)) with
    ⟨last, replayed, all⟩
  rcases all.exists_ending with ⟨transcript, ended, printedAll⟩
  rcases printed.append printedOthers printedAll with ⟨output, said⟩
  exact
    ⟨⟨transcript, none⟩, last, run_eq_success_iff.mpr ended, rfl, output, said, fonts,
      otherFonts, compiled, otherCompiled, begun, produces, printed, producesOthers,
      printedOthers, all, replayed⟩

end

/-- Two files with a manifest each, the second of which reads a file that is a sidecar of the
first. -/
def chainStore : Store :=
  ⟨[(⟨.above 0, ["bold.json"]⟩, .file (encodeUtf8
      "[[\"Bold\",2,\x7b\x7d,\x7b\x7d,[],\x7b\"Outline\":\x7b\"$stream\":\x7b\x7d,\"$file\":\"outline\"\x7d\x7d]]")),
    (⟨.above 0, ["outline"]⟩, .file (List.replicate 256 7)),
    (⟨.above 0, ["thin.json"]⟩, .file (encodeUtf8
      "[[\"Thin\",2,\x7b\x7d,\x7b\x7d,[],\x7b\"Outline\":\x7b\"$stream\":\x7b\x7d,\"$file\":\"Bold-Outline.bin\"\x7d\x7d]]")),
    (⟨.above 0, ["Bold-Outline.bin"]⟩, .file (List.replicate 256 9))]⟩

/-- The filters of this library, and one that tells the moment. -/
def clocked (moment : Int) : Query.Runner := fun filter document =>
  if filter = "now" then .ok [.number (.int moment)] else Query.run filter document

/-- The end of a generation of the manifests in some of those files, at a moment. -/
def chainRun (moment : Int) (texts : List String) : Report × Store :=
  ((⟨false, .generate (printing (some ".[]") none texts)⟩ : Invocation).runWith Store.system
    (clocked moment)).run chainStore

theorem generation_distributes_chain :
    (chainRun 1 ["bold.json"]).1.failure = none ∧ (chainRun 2 ["thin.json"]).1.failure = none ∧
      (chainRun 3 ["bold.json", "thin.json"]).1.failure = none ∧
      (chainRun 3 ["bold.json", "thin.json"]).1.transcript.output =
        (chainRun 1 ["bold.json"]).1.transcript.output ++
          (chainRun 2 ["thin.json"]).1.transcript.output ∧
      (chainRun 3 ["bold.json", "thin.json"]).2.readBytes "Bold-Outline.bin" =
        .ok (List.replicate 256 7) ∧
      (chainRun 3 ["bold.json", "thin.json"]).2.readBytes "Thin-Outline.bin" =
        .ok (List.replicate 256 9) := by
  have succeeds :
      (chainRun 1 ["bold.json"]).1.failure.isNone ∧
        (chainRun 2 ["thin.json"]).1.failure.isNone := by
    decide +kernel
  have files :
      (chainRun 3 ["bold.json", "thin.json"]).2.readBytes "Bold-Outline.bin" =
          .ok (List.replicate 256 7) ∧
        (chainRun 3 ["bold.json", "thin.json"]).2.readBytes "Thin-Outline.bin" =
          .ok (List.replicate 256 9) := by
    decide +kernel
  have timeless : ∀ text ∈ some ".[]", Timeless clocked text := by
    rintro _ ⟨⟩ moment other document
    simp [clocked]
  rcases ran : chainRun 1 ["bold.json"] with ⟨report, after⟩
  rcases ranOthers : chainRun 2 ["thin.json"] with ⟨otherReport, otherAfter⟩
  rw [ran, ranOthers] at succeeds
  have succeeded : report.failure = none := Option.isNone_iff_eq_none.mp succeeds.1
  have succeededOthers : otherReport.failure = none :=
    Option.isNone_iff_eq_none.mp succeeds.2
  rcases generation_distributes timeless ran succeeded ranOthers succeededOthers 3 with
    ⟨whole, last, ranAll, succeededAll, output, -⟩
  have together : chainRun 3 ["bold.json", "thin.json"] = (whole, last) := ranAll
  rw [together] at files ⊢
  exact ⟨succeeded, succeededOthers, succeededAll, output, files.1, files.2⟩

end FontCompiler.Command
