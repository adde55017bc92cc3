import FontCompiler.Proofs.Command.Generation
import Mathlib.Data.List.Nodup

/-!
# Streams of a generation

A generation that succeeds has delivered its source text, and every large stream
of its fonts is in the file that its declaration names.  No two of them share a
file if no two fonts share a label and no two objects of a font share a name.
Apart from these files and that of the source text nothing has changed.
-/

namespace FontCompiler.Command

open Factory Files Manifest

/-! ## Parts of a source text -/

/-- A text stands somewhere within another. -/
def Contains (text part : String) : Prop :=
  ∃ front back, text = front ++ part ++ back

namespace Contains

variable {text middle part : String}

theorem trans (outer : Contains text middle) (inner : Contains middle part) :
    Contains text part := by
  rcases outer with ⟨front, back, rfl⟩
  rcases inner with ⟨left, right, rfl⟩
  exact ⟨front ++ left, right ++ back, by simp [String.append_assoc]⟩

theorem join {parts : List String} (member : part ∈ parts) :
    Contains (String.join parts) part := by
  rcases List.append_of_mem member with ⟨front, back, rfl⟩
  refine ⟨String.join front, String.join back, ?_⟩
  rw [String.join_append, String.join_cons, String.append_assoc]

end Contains

theorem contains_of_compileFont {font : ManifestFont} {own : CompiledFont}
    (compiled : (compileFont font).result = .ok own)
    {declaration : Declaration} (declares : declaration ∈ declared font) :
    Contains own.source (declaration.text font.label) := by
  rcases exists_product_of_compileFont compiled with ⟨product, ranges, written, -, rfl⟩
  have texts :
      Contains (declarationsText font.label (declared font))
        (declaration.text font.label) :=
    .join (List.mem_map_of_mem declares)
  refine Contains.trans ⟨prologueText font.label,
    epilogueText ++ Encoder.source font.label ranges, ?_⟩ texts
  rw [compile_source written, factoryText]
  simp [declared, String.append_assoc]

theorem Compiles.exists_own {fonts : List ManifestFont} {compiled : List CompiledFont}
    (all : Compiles fonts compiled) {font : ManifestFont} (member : font ∈ fonts) :
    ∃ own ∈ compiled, (compileFont font).result = .ok own := by
  induction all with
  | nil => cases member
  | @cons head own fonts compiled succeeds others ih =>
      rcases List.mem_cons.mp member with rfl | behind
      · exact ⟨own, List.mem_cons_self, succeeds⟩
      · rcases ih behind with ⟨other, otherMember, otherSucceeds⟩
        exact ⟨other, List.mem_cons_of_mem own otherMember, otherSucceeds⟩

/-! ## Files of streams -/

/-- The path of the file for the payload of a declaration. -/
def Generation.sidecarPath (generation : Generation) (font : ManifestFont)
    (declaration : Declaration) : String :=
  join generation.sidecarDirectory (sidecarName font.label declaration.property)

section

variable {fonts : List ManifestFont} {compiled : List CompiledFont}

theorem LargeStream.sidecar (all : Compiles fonts compiled) {font : ManifestFont}
    {declaration : Declaration} {payload : List UInt8}
    (large : LargeStream fonts font declaration payload) :
    ⟨sidecarName font.label declaration.property, payload⟩ ∈
      compiled.flatMap (·.sidecars) := by
  rcases all.exists_own large.member with ⟨own, member, succeeds⟩
  refine List.mem_flatMap.mpr ⟨own, member, ?_⟩
  rw [sidecars_of_compileFont succeeds]
  exact mem_sidecarsOf large.declares large.stream large.large

/-- The name of a file tells its font and its declaration. -/
theorem eq_of_sidecarName_eq
    (labelled : ∀ font ∈ fonts, Code.isIdentifier font.label = true)
    (labels : (fonts.map (·.label)).Nodup)
    (bindings : ∀ font ∈ fonts, ((declared font).map (·.binding)).Nodup)
    {font other : ManifestFont} {declaration another : Declaration}
    (member : font ∈ fonts) (declares : declaration ∈ declared font)
    (memberOther : other ∈ fonts) (declaresOther : another ∈ declared other)
    (same :
      sidecarName font.label declaration.property =
        sidecarName other.label another.property) :
    font = other ∧ declaration = another := by
  rcases eq_of_sidecarName (labelled font member) (labelled other memberOther) same with
    ⟨label, property⟩
  have fontEq : font = other := List.inj_on_of_nodup_map labels member memberOther label
  cases fontEq
  exact
    ⟨rfl,
      List.inj_on_of_nodup_map (bindings font member) declares declaresOther
        (congrArg Text.lowerFirst property)⟩

theorem isName_sidecarName_of_declared
    (labelled : ∀ font ∈ fonts, Code.isIdentifier font.label = true)
    (all : Compiles fonts compiled) {font : ManifestFont} (member : font ∈ fonts)
    {declaration : Declaration} (declares : declaration ∈ declared font) :
    IsName (sidecarName font.label declaration.property) := by
  rcases all.exists_own member with ⟨own, -, succeeds⟩
  rcases exists_product_of_compileFont succeeds with ⟨product, -, written, -, -⟩
  exact
    isName_sidecarName (labelled font member)
      (isIdentifier_of_compile written declaration declares)

end

/-! ## Delivery -/

/-- The source text is where it was meant for: in a file, or else printed. -/
def Delivers (output : Option String) (source : String) (transcript : Transcript)
    (after : Store) : Prop :=
  match output with
  | none => transcript.output = source
  | some out => after.readBytes out = .ok (encodeUtf8 source)

variable {output : Option String} {source : String} {transcript later : Transcript}
  {store after : Store}

theorem Delivering.delivers (silent : transcript.output = "")
    (delivering : Delivering output source transcript store ⟨.ok (), later, after⟩) :
    Delivers output source later after ∧ Store.Retains store after ∧
      ∀ place, (∀ out, output = some out → ¬ after.LeadsTo out place) →
        after.file? place = store.file? place := by
  cases delivering with
  | printed nowhere =>
      cases nowhere
      refine ⟨?_, .refl store, fun _ _ => rfl⟩
      rw [Delivers]
      simp [silent]
  | @written path _ between _ somewhere furnishes wrote =>
      cases somewhere
      have retains := Store.retains_of_writeBytes_ok wrote
      rcases Store.exists_of_writeBytes_ok wrote with
        ⟨target, leads, noDirectory, rfl⟩
      have put (place : Place) :
          (between.put target (.file (encodeUtf8 source))).file? place =
            if target = place then some (encodeUtf8 source) else between.file? place :=
        Store.file?_put_file (Store.names_ne_nil noDirectory) _ place
      refine ⟨?_, furnishes.retains.trans retains, ?_⟩
      · refine Store.readBytes_of_target (retains.target leads) ?_
        rw [put, if_pos rfl]
      · intro place elsewhere
        rw [put, if_neg, furnishes.files]
        rintro rfl
        exact elsewhere path rfl ⟨false, retains.target leads⟩

/-! ## Runs that succeed -/

variable {system : System (StateM Store)} {runner : Query.Runner} {generation : Generation}
  {fonts : List ManifestFont}

/-- What a generation leaves that succeeds. -/
structure Delivered (generation : Generation) (fonts : List ManifestFont)
    (compiled : List CompiledFont) (later : Transcript) (before after : Store) : Prop where
  labelled : AllLabelled fonts
  all : Compiles fonts compiled
  delivers :
    Delivers generation.output (String.join (compiled.map (·.source))) later after
  files : ∃ around : Place,
    (∀ sidecar ∈ compiled.flatMap (·.sidecars),
      after.target (join generation.sidecarDirectory sidecar.name) =
        .ok (around.child sidecar.name, false)) ∧
      ∀ place, (∀ out, generation.output = some out → ¬ after.LeadsTo out place) →
        after.file? place =
          (lastAt around (compiled.flatMap (·.sidecars)) place).or (before.file? place)

theorem Generating.delivered (loads : generation.fonts system runner store = .ok fonts)
    (generating : Generating system runner generation store ⟨.ok (), later, after⟩) :
    ∃ compiled, Delivered generation fonts compiled later store after := by
  cases generating with
  | finished ownLoads labelled furnishes work delivery =>
      rw [loads] at ownLoads
      cases ownLoads
      cases work with
      | @done compiled _ _ all stored told =>
          rcases delivery.delivers told.output with ⟨delivers, retains, kept⟩
          rcases
              stored.leaves fun sidecar member =>
                (all.sidecarOf sidecar member).isName labelled with
            ⟨-, around, targets, files⟩
          refine ⟨compiled, labelled, all, delivers, around, ?_, ?_⟩
          · intro sidecar member
            exact retains.target (targets sidecar member)
          · intro place elsewhere
            rw [kept place elsewhere, files, furnishes.files]

/-- A generation that succeeds has delivered the code of its fonts, unless it is a dry run. -/
theorem exists_delivered_of_run (careful : Careful system)
    {invocation : Invocation} (task : invocation.task = .generate generation)
    {report : Report}
    (ran : (invocation.runWith system runner).run store = (report, after))
    (succeeded : report.failure = none)
    (loads : generation.fonts system runner store = .ok fonts)
    (wet : generation.dryRun = false) :
    ∃ compiled,
      Delivered generation fonts compiled report.transcript store after := by
  rcases generating_of_run careful task ran wet with ⟨result, generating, failure⟩
  rw [succeeded] at failure
  cases result with
  | error cause => cases failure
  | ok done => exact generating.delivered loads

namespace Delivered

variable {compiled : List CompiledFont} {before : Store}
  (delivered : Delivered generation fonts compiled later before after)
  (labels : (fonts.map (·.label)).Nodup)
  (bindings : ∀ font ∈ fonts, ((declared font).map (·.binding)).Nodup)
  {font : ManifestFont} {declaration : Declaration} {payload : List UInt8}

include delivered

theorem contains (member : font ∈ fonts) (declares : declaration ∈ declared font) :
    Contains (String.join (compiled.map (·.source))) (declaration.text font.label) := by
  rcases delivered.all.exists_own member with ⟨own, ownMember, succeeds⟩
  exact
    (Contains.join (List.mem_map_of_mem ownMember)).trans
      (contains_of_compileFont succeeds declares)

/-- A place that changes is that of the source text or that of a stream. -/
theorem exists_stream_of_changed {place : Place}
    (changed : after.file? place ≠ before.file? place)
    (elsewhere : ∀ out, generation.output = some out → ¬ after.LeadsTo out place) :
    ∃ font declaration payload,
      LargeStream fonts font declaration payload ∧
        after.LeadsTo (generation.sidecarPath font declaration) place := by
  rcases delivered.files with ⟨around, targets, files⟩
  by_contra noStream
  refine changed ?_
  rw [files place elsewhere, lastAt_eq_none, Option.none_or]
  rintro sidecar member rfl
  rcases (delivered.all.sidecarOf sidecar member).exists_stream with
    ⟨font, declaration, large, name⟩
  refine noStream ⟨font, declaration, sidecar.bytes, large, false, ?_⟩
  rw [Generation.sidecarPath, ← name]
  exact targets sidecar member

include labels bindings

/-- Two declarations with the same path are one. -/
theorem eq_of_samePlace {other : ManifestFont} {another : Declaration}
    (member : font ∈ fonts) (declares : declaration ∈ declared font)
    (memberOther : other ∈ fonts) (declaresOther : another ∈ declared other)
    (same :
      after.SamePlace (generation.sidecarPath font declaration)
        (generation.sidecarPath other another)) :
    font = other ∧ declaration = another := by
  refine
    eq_of_sidecarName_eq delivered.labelled labels bindings member declares memberOther
      declaresOther ?_
  exact
    Store.name_eq_of_samePlace
      (isName_sidecarName_of_declared delivered.labelled delivered.all member declares)
      (isName_sidecarName_of_declared delivered.labelled delivered.all memberOther
        declaresOther)
      same

/-- The file of a stream holds its payload, unless it is that of the source text. -/
theorem readBytes_eq (large : LargeStream fonts font declaration payload)
    (apart : ∀ out, generation.output = some out →
      ¬ after.SamePlace out (generation.sidecarPath font declaration)) :
    after.readBytes (generation.sidecarPath font declaration) = .ok payload := by
  rcases delivered.files with ⟨around, targets, files⟩
  have member := large.sidecar delivered.all
  have leads := targets _ member
  have last :
      lastAt around (compiled.flatMap (·.sidecars))
          (around.child (sidecarName font.label declaration.property)) =
        some payload := by
    refine lastAt_eq_some ?_ ⟨_, member, rfl⟩
    intro sidecar inside same
    rcases (delivered.all.sidecarOf sidecar inside).exists_stream with
      ⟨other, another, largeOther, name⟩
    have names := name.symm.trans (Place.child_injective same)
    rcases
        eq_of_sidecarName_eq delivered.labelled labels bindings largeOther.member
          largeOther.declares large.member large.declares names with
      ⟨rfl, rfl⟩
    exact Option.some.inj (largeOther.stream.symm.trans large.stream)
  refine Store.readBytes_of_target leads ?_
  rw [files, last, Option.some_or]
  intro out somewhere leadsOut
  exact apart out somewhere ⟨_, leadsOut, false, leads⟩

/-- The would-be file of a small stream is as it was, unless it is that of the source text. -/
theorem file?_of_small (member : font ∈ fonts) (declares : declaration ∈ declared font)
    (stream : declaration.payload = some payload) (small : payload.length < inlineLimit)
    {place : Place} (leads : after.LeadsTo (generation.sidecarPath font declaration) place)
    (elsewhere : ∀ out, generation.output = some out → ¬ after.LeadsTo out place) :
    after.file? place = before.file? place := by
  by_contra changed
  rcases delivered.exists_stream_of_changed changed elsewhere with
    ⟨other, another, payload', large, leadsOther⟩
  rcases
      delivered.eq_of_samePlace labels bindings large.member large.declares member declares
        ⟨place, leadsOther, leads⟩ with
    ⟨rfl, rfl⟩
  cases Option.some.inj (large.stream.symm.trans stream)
  exact absurd large.large (Nat.not_le.mpr small)

end Delivered

/-- The text of a declaration ends with the name of the file that holds its payload. -/
theorem exists_opening_of_large {label : String} {declaration : Declaration}
    {payload : List UInt8} (stream : declaration.payload = some payload)
    (large : inlineLimit ≤ payload.length) :
    ∃ opening,
      declaration.text label =
        opening ++ ("\"" ++ sidecarName label declaration.property ++ "\"") ++
          ");\n\n\n" := by
  have closing :
      declaration.closingText label =
        Code.blanks Code.statementIndent ++ "\x7d, " ++
          ("\"" ++ sidecarName label declaration.property ++ "\"") ++ ");\n\n\n" := by
    rw [Declaration.closingText, stream]
    dsimp only
    rw [Declaration.payloadText, if_neg (Nat.not_lt.mpr large)]
  rw [Declaration.text, closing]
  refine
    ⟨Declaration.openingText declaration.typeName declaration.binding ++
      entriesText declaration.entries ++ (Code.blanks Code.statementIndent ++ "\x7d, "), ?_⟩
  simp only [String.append_assoc]

/--
A generation that succeeds stores every large stream.  Let a run of an invocation
end well, on a file system on which operations do what they are meant to or
nothing, whatever runs its filters.  Let the labels of its fonts differ, and the
names of the objects of each font, and let the source text go into none of the
files for streams.  Then, however deep it is, a stream of 256 bytes or more is in
the file for its property, and that is the file that its declaration names in the
delivered source text.  Different streams have different files, small streams
have none, and no file has changed but those of streams and that of the source
text.
-/
theorem generation_stores_streams (careful : Careful system)
    {invocation : Invocation} (task : invocation.task = .generate generation)
    {report : Report}
    (ran : (invocation.runWith system runner).run store = (report, after))
    (succeeded : report.failure = none)
    (loads : generation.fonts system runner store = .ok fonts)
    (labels : (fonts.map (·.label)).Nodup)
    (bindings : ∀ font ∈ fonts, ((declared font).map (·.binding)).Nodup)
    (apart : ∀ out, generation.output = some out →
      ∀ font declaration payload, LargeStream fonts font declaration payload →
        ¬ after.SamePlace out (generation.sidecarPath font declaration)) :
    (∀ font declaration payload, LargeStream fonts font declaration payload →
        after.readBytes (generation.sidecarPath font declaration) = .ok payload ∧
          ∃ source opening,
            Delivers generation.output source report.transcript after ∧
              Contains source (declaration.text font.label) ∧
              declaration.text font.label =
                opening ++
                  ("\"" ++ sidecarName font.label declaration.property ++ "\"") ++
                  ");\n\n\n") ∧
      (∀ font declaration payload other another payload',
        LargeStream fonts font declaration payload →
        LargeStream fonts other another payload' →
        after.SamePlace (generation.sidecarPath font declaration)
          (generation.sidecarPath other another) →
        font = other ∧ declaration = another) ∧
      (∀ font ∈ fonts, ∀ declaration ∈ declared font, ∀ payload,
        declaration.payload = some payload → payload.length < inlineLimit →
        ∀ place, after.LeadsTo (generation.sidecarPath font declaration) place →
          (∀ out, generation.output = some out → ¬ after.LeadsTo out place) →
          after.file? place = store.file? place) ∧
      ∀ place, after.file? place ≠ store.file? place →
        (∃ font declaration payload,
          LargeStream fonts font declaration payload ∧
            after.LeadsTo (generation.sidecarPath font declaration) place) ∨
          ∃ out, generation.output = some out ∧ after.LeadsTo out place := by
  cases dry : generation.dryRun with
  | true =>
      rcases eq_of_dryRun task ran dry with ⟨-, rfl⟩
      rw [Generation.fonts, if_pos dry] at loads
      cases loads
      refine ⟨?_, ?_, ?_, fun place changed => absurd rfl changed⟩
      · intro font declaration payload large
        cases large.member
      · intro font declaration payload other another payload' large
        cases large.member
      · intro font member
        cases member
  | false =>
      rcases exists_delivered_of_run careful task ran succeeded loads dry with
        ⟨compiled, delivered⟩
      refine ⟨?_, ?_, ?_, ?_⟩
      · intro font declaration payload large
        rcases exists_opening_of_large large.stream large.large with ⟨opening, text⟩
        exact
          ⟨delivered.readBytes_eq labels bindings large fun out somewhere =>
              apart out somewhere font declaration payload large,
            _, opening, delivered.delivers,
            delivered.contains large.member large.declares, text⟩
      · intro font declaration payload other another payload' large largeOther same
        exact
          delivered.eq_of_samePlace labels bindings large.member large.declares
            largeOther.member largeOther.declares same
      · intro font member declaration declares payload stream small place leads elsewhere
        exact
          delivered.file?_of_small labels bindings member declares stream small leads
            elsewhere
      · intro place changed
        by_cases source : ∃ out, generation.output = some out ∧ after.LeadsTo out place
        · exact .inr source
        · refine .inl (delivered.exists_stream_of_changed changed ?_)
          intro out somewhere leads
          exact source ⟨out, somewhere, leads⟩

/-- A working directory with a manifest, the payload of its stream, and an old source text. -/
def outlineStore : Store :=
  ⟨[(⟨.above 0, ["bold.json"]⟩, .file (encodeUtf8
      "[\"Bold\",2,\x7b\x7d,\x7b\x7d,[],\x7b\"Kids\":[\x7b\"Outline\":\x7b\"$stream\":\x7b\x7d,\"$file\":\"outline\"\x7d\x7d]\x7d]")),
    (⟨.above 0, ["outline"]⟩, .file (List.replicate 256 7)),
    (⟨.above 0, ["Fonts.cs"]⟩, .file [1])]⟩

/-- The generation of a source text from that manifest, with its sidecar in a directory. -/
def outlineGeneration : Generation :=
  ⟨⟨none, ["bold.json"]⟩, some "Fonts.cs", some "data", false⟩

/-- The end of that generation. -/
def outlineRun : Report × Store :=
  ((⟨false, .generate outlineGeneration⟩ : Invocation).run Store.system).run outlineStore

/-- The fonts of that generation. -/
def outlineFonts : Except Failure (List ManifestFont) :=
  outlineGeneration.fonts Store.system Query.run outlineStore

theorem generation_stores_streams_outline :
    ∃ fonts,
      outlineRun.1.failure = none ∧ outlineFonts = .ok fonts ∧
        (fonts.map (·.label)).Nodup ∧
        (∀ font ∈ fonts, ((declared font).map (·.binding)).Nodup) ∧
        outlineRun.2.readBytes "data/Bold-Outline.bin" = .ok (List.replicate 256 7) := by
  have facts :
      outlineRun.1.failure.isNone ∧
        ∃ fonts ∈ outlineFonts.toOption,
          (fonts.map (·.label)).Nodup ∧
            (∀ font ∈ fonts, ((declared font).map (·.binding)).Nodup) ∧
            (∀ font ∈ fonts, ∀ declaration ∈ declared font,
              (outlineRun.2.target "Fonts.cs").toOption.map Prod.fst ≠
                (outlineRun.2.target
                  (outlineGeneration.sidecarPath font declaration)).toOption.map
                  Prod.fst) ∧
            ∃ font ∈ fonts, ∃ declaration ∈ declared font,
              declaration.payload = some (List.replicate 256 7) ∧
                outlineGeneration.sidecarPath font declaration =
                  "data/Bold-Outline.bin" := by
    decide +kernel
  rcases facts with
    ⟨succeeded, fonts, found, labels, bindings, apart, font, member, declaration,
      declares, stream, path⟩
  have loads : outlineFonts = .ok fonts := ok_of_mem_toOption found
  have ended : outlineRun.1.failure = none := Option.isNone_iff_eq_none.mp succeeded
  have elsewhere :
      ∀ out, outlineGeneration.output = some out →
        ∀ font declaration payload, LargeStream fonts font declaration payload →
          ¬ outlineRun.2.SamePlace out
            (outlineGeneration.sidecarPath font declaration) := by
    rintro _ ⟨⟩ font declaration payload large same
    exact apart font large.member declaration large.declares same.target_eq
  rcases ran : outlineRun with ⟨report, after⟩
  rw [ran] at ended elsewhere
  have stored :=
    generation_stores_streams careful_system rfl ran ended loads labels bindings elsewhere
  refine ⟨fonts, ended, loads, labels, bindings, ?_⟩
  rw [← path]
  have long : inlineLimit ≤ (List.replicate 256 (7 : UInt8)).length :=
    Nat.le_of_eq List.length_replicate.symm
  exact (stored.1 font declaration _ ⟨member, declares, stream, long⟩).1

end FontCompiler.Command
