import FontCompiler.Proofs.Command.Compiling
import FontCompiler.Proofs.Command.Loading

/-!
# Runs of a generation

A generation makes the directory of the sidecars, loads all fonts, works on
them, and delivers the source text, in this order.  A failure at any of these
steps ends it there, so all later steps leave the store and the standard output
as they are.
-/

namespace FontCompiler.Command

open Factory Files Manifest

variable {system : System (StateM Store)} {runner : Query.Runner} (careful : Careful system)

/-! ## Delivery -/

/-- Failures of the delivery of a source text. -/
inductive Undelivered : Failure → Prop
  | directory (cause : Files.Failure) : Undelivered (.createOutputDirectory cause)
  | file (path : String) (cause : Files.Failure) : Undelivered (.writeOutput path cause)

/-- How the delivery of a source text ends. -/
inductive Delivering (output : Option String) (source : String) (transcript : Transcript)
    (store : Store) : Ending Unit → Prop
  | printed (nowhere : output = none) :
      Delivering output source transcript store
        ⟨.ok (), { transcript with output := transcript.output ++ source }, store⟩
  | written {path directory : String} {between after : Store}
      (somewhere : output = some path)
      (furnishes : Furnishes directory store between)
      (wrote : between.writeBytes path (encodeUtf8 source) = .ok after) :
      Delivering output source transcript store ⟨.ok (), transcript, after⟩
  | stopped {path directory : String} {failure : Failure} {after : Store}
      (somewhere : output = some path)
      (furnishes : Furnishes directory store after)
      (undelivered : Undelivered failure) :
      Delivering output source transcript store ⟨.error failure, transcript, after⟩

include careful

theorem delivering_write {output : Option String} {path directory source : String}
    {transcript : Transcript} {store between : Store}
    (somewhere : output = some path)
    (furnishes : Furnishes directory store between) :
    Delivering output source transcript store
      (Session.ending
        (Session.require (.writeOutput path)
          (system.writeBytes path (encodeUtf8 source)))
        transcript between) := by
  rcases careful.writeBytes path (encodeUtf8 source) between with
    ⟨after, wrote, ran⟩ | ⟨cause, ran⟩
  · rw [Session.ending_require_of_ok ran]
    exact .written somewhere furnishes wrote
  · rw [Session.ending_require_of_error ran]
    exact .stopped somewhere furnishes (.file path cause)

theorem delivering (output : Option String) (source : String)
    (transcript : Transcript) (store : Store) :
    Delivering output source transcript store
      (Session.ending (deliver system output source) transcript store) := by
  cases output with
  | none => exact .printed rfl
  | some path =>
      rw [deliver]
      dsimp only
      split
      · exact delivering_write careful rfl (.refl "" store)
      · rename_i parent above
        have furnishes := careful.ensureDirectory_furnishing parent store
        rcases ran : (system.ensureDirectory parent).run store with ⟨made, between⟩
        rw [ran] at furnishes
        cases made with
        | ok done =>
            rw [Session.ending_bind_of_ok (Session.ending_require_of_ok ran)]
            exact delivering_write careful rfl furnishes
        | error cause =>
            rw [Session.ending_bind_of_error (Session.ending_require_of_error ran)]
            exact .stopped rfl furnishes (.directory cause)

/-! ## Loading -/

omit careful in
/-- The fonts that a generation works on, or why there are none; a dry run loads nothing. -/
def Generation.fonts (system : System (StateM Store)) (runner : Query.Runner)
    (generation : Generation) (store : Store) : Except Failure (List ManifestFont) :=
  if generation.dryRun then .ok []
  else
    (Session.ending (generation.load system runner) .empty store).result

theorem exists_preparing (generation : Generation) (transcript : Transcript)
    (store : Store) :
    ∃ result after,
      Session.ending (generation.prepare system) transcript store =
          ⟨result, transcript, after⟩ ∧
        Furnishes generation.sidecarDirectory store after := by
  unfold Generation.prepare
  dsimp only
  split
  · have furnishes := careful.ensureDirectory_furnishing generation.sidecarDirectory store
    rcases ran : (system.ensureDirectory generation.sidecarDirectory).run store with
      ⟨made, after⟩
    rw [ran] at furnishes
    cases made with
    | ok done => exact ⟨_, after, Session.ending_require_of_ok ran, furnishes⟩
    | error cause => exact ⟨_, after, Session.ending_require_of_error ran, furnishes⟩
  · exact ⟨.ok (), store, rfl, .refl _ store⟩

/-! ## Whole runs -/

omit careful in
/-- How a generation ends that starts on a store. -/
inductive Generating (system : System (StateM Store)) (runner : Query.Runner)
    (generation : Generation) (store : Store) : Ending Unit → Prop
  | unloaded {failure : Failure} {records : List Log.Record} {after : Store}
      (fails : generation.fonts system runner store = .error failure)
      (furnishes : Furnishes generation.sidecarDirectory store after) :
      Generating system runner generation store
        ⟨.error failure, Transcript.empty.logged records, after⟩
  | unfinished {fonts : List ManifestFont} {failure : Failure}
      {records : List Log.Record} {later : Transcript} {begun after : Store}
      (loads : generation.fonts system runner store = .ok fonts)
      (labelled : AllLabelled fonts)
      (furnishes : Furnishes generation.sidecarDirectory store begun)
      (work :
        Compiling generation.sidecarDirectory fonts (Transcript.empty.logged records) begun
          ⟨.error failure, later, after⟩) :
      Generating system runner generation store ⟨.error failure, later, after⟩
  | finished {fonts : List ManifestFont} {source : String}
      {records : List Log.Record} {later : Transcript} {begun between : Store}
      {ending : Ending Unit}
      (loads : generation.fonts system runner store = .ok fonts)
      (labelled : AllLabelled fonts)
      (furnishes : Furnishes generation.sidecarDirectory store begun)
      (work :
        Compiling generation.sidecarDirectory fonts (Transcript.empty.logged records) begun
          ⟨.ok source, later, between⟩)
      (delivery : Delivering generation.output source later between ending) :
      Generating system runner generation store ending

theorem exists_loading (generation : Generation) (transcript : Transcript)
    (store : Store) :
    ∃ result records after,
      Session.ending (generation.load system runner) transcript store =
          ⟨result, transcript.logged records, after⟩ ∧
        Furnishes generation.sidecarDirectory store after ∧
        ∀ fonts, result = .ok fonts → AllLabelled fonts := by
  rcases exists_preparing careful generation transcript store with
    ⟨prepared, begun, ended, furnishes⟩
  cases prepared with
  | error failure =>
      refine ⟨.error failure, [], begun, ?_, furnishes, nofun⟩
      rw [Transcript.logged_nil]
      exact Session.ending_bind_of_error ended
  | ok done =>
      rcases reads_load careful generation.sources begun with
        ⟨result, records, finished, labelled⟩
      refine ⟨result, records, begun, ?_, furnishes, labelled⟩
      exact (Session.ending_bind_of_ok ended).trans (finished transcript)

theorem generating {generation : Generation} (wet : generation.dryRun = false)
    (store : Store) :
    Generating system runner generation store
      (Session.ending (generation.run system runner) .empty store) := by
  rcases exists_loading careful generation .empty store with
    ⟨result, records, begun, loaded, furnishes, labelled⟩
  have fonts : generation.fonts system runner store = result := by
    rw [Generation.fonts, if_neg (by simp [wet]), loaded]
  rw [Generation.run]
  cases result with
  | error failure =>
      rw [Session.ending_bind_of_error loaded]
      exact .unloaded fonts furnishes
  | ok loadedFonts =>
      rw [Session.ending_bind_of_ok loaded]
      have work :=
        compiling careful generation.sidecarDirectory loadedFonts
          (Transcript.empty.logged records) begun
      generalize ran :
        Session.ending (compileFonts system generation.sidecarDirectory loadedFonts)
          (Transcript.empty.logged records) begun = ending at work
      rcases ending with ⟨result, later, between⟩
      cases result with
      | error failure =>
          rw [Session.ending_bind_of_error ran]
          exact .unfinished fonts (labelled _ rfl) furnishes work
      | ok source =>
          rw [Session.ending_bind_of_ok ran]
          exact
            .finished fonts (labelled _ rfl) furnishes work
              (delivering careful generation.output source later between)

section

variable {invocation : Invocation} {generation : Generation}
  (task : invocation.task = .generate generation)
  {store after : Store} {report : Report}
  (ran : (invocation.runWith system runner).run store = (report, after))

include task ran

/-- The report of a run tells how its generation ends. -/
theorem generating_of_run (wet : generation.dryRun = false) :
    ∃ result,
      Generating system runner generation store ⟨result, report.transcript, after⟩ ∧
        report.failure =
          match result with
          | .ok () => none
          | .error failure => some failure := by
  have perform : invocation.perform system runner = generation.run system runner := by
    simp [Invocation.perform, task, wet]
  have ends : Generating system runner generation store _ := generating careful wet store
  rw [← perform] at ends
  cases ran
  exact ⟨_, ends, rfl⟩

omit careful in
theorem eq_of_dryRun (dry : generation.dryRun = true) :
    report.failure = none ∧ after = store := by
  have perform : invocation.perform system runner = Session.line invocation.dump := by
    simp [Invocation.perform, task, dry]
  unfold Invocation.runWith at ran
  rw [perform] at ran
  cases ran
  exact ⟨rfl, rfl⟩

end

end FontCompiler.Command
