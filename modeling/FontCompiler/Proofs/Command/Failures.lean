import FontCompiler.Proofs.Command.Generation

/-!
# Generations that fail

A generation that fails has delivered nothing: the standard output is empty, and
the file that the source text was meant for is as it was.  How much else there
is depends on how far the generation came.  Nothing but directories is left as
long as the fonts are not loaded; then there are the sidecars of all fonts in
front of the failure, and those of the font itself that were written.
-/

namespace FontCompiler.Command

open Factory Files Manifest

/-- How much of the work on fonts was done in front of a failure. -/
inductive StopsAfter (fonts : List ManifestFont) (failure : Failure) :
    List CompiledFont → List Sidecar → Prop
  | work {compiled : List CompiledFont} {written : List Sidecar}
      (interrupts : Interrupts fonts failure compiled written) :
      StopsAfter fonts failure compiled written
  | delivery {compiled : List CompiledFont}
      (all : Compiles fonts compiled)
      (undelivered : Undelivered failure) :
      StopsAfter fonts failure compiled (compiled.flatMap (·.sidecars))

theorem StopsAfter.sidecarOf {fonts : List ManifestFont} {failure : Failure}
    {compiled : List CompiledFont} {written : List Sidecar}
    (stops : StopsAfter fonts failure compiled written) :
    ∀ sidecar ∈ written, SidecarOf fonts sidecar := by
  cases stops with
  | work interrupts => exact interrupts.sidecarOf
  | delivery all undelivered => exact all.sidecarOf

variable {system : System (StateM Store)} {runner : Query.Runner} {generation : Generation}
  {store after : Store} {failure : Failure} {later : Transcript}

/-- What is left of a generation that fails. -/
def Remains (system : System (StateM Store)) (runner : Query.Runner) (generation : Generation)
    (failure : Failure) (told : List String) (before after : Store) : Prop :=
  match generation.fonts system runner before with
  | .error cause =>
    failure = cause ∧ told = [] ∧ Furnishes generation.sidecarDirectory before after
  | .ok fonts =>
    ∃ compiled written,
      StopsAfter fonts failure compiled written ∧ told = compiled.map compiledLine ∧
        Leaves generation.sidecarDirectory written before after

theorem said_of_tells {records : List Log.Record} {lines : List String}
    (told : (Transcript.empty.logged records).Tells lines later) :
    later.output = "" ∧ later.said = lines := by
  refine ⟨told.output, ?_⟩
  rw [told.said, Transcript.said_logged, Transcript.said_empty, List.nil_append]

theorem Generating.failed
    (generating : Generating system runner generation store ⟨.error failure, later, after⟩) :
    later.output = "" ∧ Remains system runner generation failure later.said store after := by
  unfold Remains
  cases generating with
  | unloaded fails furnishes =>
      rw [fails]
      exact ⟨rfl, rfl, Transcript.said_logged _ _, furnishes⟩
  | unfinished loads labelled furnishes work =>
      rw [loads]
      cases work with
      | @stopped _ compiled written _ _ interrupts stored told =>
          have leaves :=
            stored.leaves fun sidecar member =>
              (interrupts.sidecarOf sidecar member).isName labelled
          rcases said_of_tells told with ⟨output, said⟩
          exact
            ⟨output, compiled, written, .work interrupts, said,
              leaves.of_furnishes furnishes (.refl "" after)⟩
  | finished loads labelled furnishes work delivery =>
      rw [loads]
      cases delivery with
      | stopped somewhere back undelivered =>
          cases work with
          | @done compiled _ _ all stored told =>
              have leaves :=
                stored.leaves fun sidecar member =>
                  (all.sidecarOf sidecar member).isName labelled
              rcases said_of_tells told with ⟨output, said⟩
              exact
                ⟨output, compiled, _, .delivery all undelivered, said,
                  leaves.of_furnishes furnishes back⟩

namespace Remains

variable {told : List String}
  (remains : Remains system runner generation failure told store after)

include remains

theorem retains : Store.Retains store after := by
  unfold Remains at remains
  split at remains
  · exact remains.2.2.retains
  · rcases remains with ⟨compiled, written, -, -, leaves⟩
    exact leaves.retains

variable {path : String}
  (apart : ∀ fonts, generation.fonts system runner store = .ok fonts →
    ∀ sidecar, SidecarOf fonts sidecar →
      ¬ after.SamePlace path (join generation.sidecarDirectory sidecar.name))

include apart

/-- The file of a path that is none of the sidecars' is as it was. -/
theorem file?_eq {place : Place} (leads : after.LeadsTo path place) :
    after.file? place = store.file? place := by
  unfold Remains at remains
  cases loads : generation.fonts system runner store with
  | error cause =>
      rw [loads] at remains
      rw [remains.2.2.files]
  | ok fonts =>
      rw [loads] at remains
      rcases remains with ⟨compiled, written, stops, -, leaves⟩
      exact
        leaves.file?_eq
          (fun sidecar member => apart fonts loads sidecar (stops.sidecarOf sidecar member))
          leads

theorem readBytes_eq {bytes : List UInt8} (read : store.readBytes path = .ok bytes) :
    after.readBytes path = .ok bytes := by
  rcases Store.exists_target_of_readBytes read with ⟨place, leads, there⟩
  have leadsAfter := remains.retains.target leads
  refine Store.readBytes_of_target leadsAfter ?_
  rw [remains.file?_eq apart ⟨false, leadsAfter⟩, there]

end Remains

/--
A generation that fails leaves nothing of its output.  On a file system on
which a failed operation changes nothing, let a run of an invocation end with a
failure, whatever runs its filters.  Then nothing was printed, and the file that
the source text was meant for is as it was, unless it is a sidecar itself.  If
the fonts could not be loaded, no file at all has changed, and new are at most
directories on the way to that of the sidecars.  If they could, there is a line
for each font in front of the failure, and the files that changed are their
sidecars, and the sidecars in front of one that could not be written, the last of
each name having its way.
-/
theorem failed_generation_remains (careful : Careful system)
    {invocation : Invocation} (task : invocation.task = .generate generation)
    {report : Report}
    (ran : (invocation.runWith system runner).run store = (report, after))
    (failed : report.failure = some failure) :
    report.transcript.output = "" ∧
      (∀ out, generation.output = some out →
        (∀ fonts, generation.fonts system runner store = .ok fonts →
          ∀ sidecar, SidecarOf fonts sidecar →
            ¬ after.SamePlace out (join generation.sidecarDirectory sidecar.name)) →
        (∀ bytes, store.readBytes out = .ok bytes → after.readBytes out = .ok bytes) ∧
          ∀ place, store.LeadsTo out place ∨ after.LeadsTo out place →
            after.file? place = store.file? place) ∧
      Remains system runner generation failure report.transcript.said store after := by
  cases dry : generation.dryRun with
  | true =>
      rcases eq_of_dryRun task ran dry with ⟨succeeded, -⟩
      rw [succeeded] at failed
      cases failed
  | false =>
      rcases generating_of_run careful task ran dry with ⟨result, generating, failure⟩
      rw [failure] at failed
      cases result with
      | ok done => cases failed
      | error cause =>
          cases failed
          rcases generating.failed with ⟨output, remains⟩
          refine ⟨output, ?_, remains⟩
          intro out _ apart
          refine ⟨fun bytes read => remains.readBytes_eq apart read, ?_⟩
          rintro place (leads | leads)
          · exact remains.file?_eq apart (remains.retains.leadsTo leads)
          · exact remains.file?_eq apart leads

/-- A working directory with two manifests, of which the second asks for a range it cannot have. -/
def brokenStore : Store :=
  ⟨[(⟨.above 0, ["bold.json"]⟩, .file (encodeUtf8
      "[\"Bold\",2,\x7b\x7d,\x7b\x7d,[],\x7b\"Outline\":\x7b\"$stream\":\x7b\x7d,\"$file\":\"outline\"\x7d\x7d]")),
    (⟨.above 0, ["thin.json"]⟩, .file (encodeUtf8
      "[\"Thin\",2,\x7b\x7d,\x7b\x7d,[[65,66]],\x7b\x7d]")),
    (⟨.above 0, ["outline"]⟩, .file (List.replicate 256 7)),
    (⟨.above 0, ["Fonts.cs"]⟩, .file [1])]⟩

/-- The generation of a source text from both manifests, in the place of an old one. -/
def brokenGeneration : Generation :=
  ⟨⟨none, ["bold.json", "thin.json"]⟩, some "Fonts.cs", none, false⟩

/-- The end of that generation. -/
def brokenRun : Report × Store :=
  ((⟨false, .generate brokenGeneration⟩ : Invocation).run Store.system).run brokenStore

theorem failed_generation_remains_broken :
    ∃ failure,
      brokenRun.1.failure = some failure ∧ brokenRun.1.transcript.output = "" ∧
        brokenRun.2.readBytes "Fonts.cs" = .ok [1] ∧
        Remains Store.system Query.run brokenGeneration failure
          ["compiled Bold (1 sidecar files)"] brokenStore brokenRun.2 := by
  have facts :
      brokenRun.1.failure.isSome ∧
        brokenRun.1.transcript.said = ["compiled Bold (1 sidecar files)"] ∧
        brokenStore.readBytes "Fonts.cs" = .ok [1] ∧
        ∃ fonts ∈ (brokenGeneration.fonts Store.system Query.run brokenStore).toOption,
          ∀ font ∈ fonts, ∀ declaration ∈ declared font,
            (brokenRun.2.target "Fonts.cs").toOption.map Prod.fst ≠
              (brokenRun.2.target
                (join brokenGeneration.sidecarDirectory
                  (sidecarName font.label declaration.property))).toOption.map
                Prod.fst := by
    decide +kernel
  rcases facts with ⟨fails, said, old, fonts, found, apart⟩
  rcases Option.isSome_iff_exists.mp fails with ⟨failure, failed⟩
  have loads : brokenGeneration.fonts Store.system Query.run brokenStore = .ok fonts :=
    ok_of_mem_toOption found
  rcases ran : brokenRun with ⟨report, after⟩
  rw [ran] at said apart failed
  rcases failed_generation_remains careful_system rfl ran failed with
    ⟨output, kept, remains⟩
  rw [said] at remains
  refine ⟨failure, failed, output, ?_, remains⟩
  refine (kept "Fonts.cs" rfl ?_).1 _ old
  intro loaded loadsLoaded sidecar belongs same
  cases Except.ok.inj (loads.symm.trans loadsLoaded)
  rcases belongs.exists_stream with ⟨font, declaration, large, name⟩
  rw [name] at same
  exact apart font large.member declaration large.declares same.target_eq

end FontCompiler.Command
