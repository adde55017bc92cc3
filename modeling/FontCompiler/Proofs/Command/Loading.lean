import FontCompiler.Command.Sources
import FontCompiler.Proofs.Command.Session
import FontCompiler.Proofs.Manifest.Fonts

/-!
# Loading reads only

Expanding patterns and loading manifests leaves the store as it is, on every
way out, and reports nothing but log records.  Every font that is loaded has an
identifier as its label.
-/

namespace FontCompiler.Command

open Files Manifest

variable {system : System (StateM Store)} {runner : Query.Runner} (careful : Careful system)

include careful

/-! ## Searching -/

section

variable (directories : Bool)

omit careful in
theorem quiet_searchAll {α : Type} {search : α → Pattern.Search (StateM Store) (List String)}
    (quiet : ∀ item, Quiet (search item).run) :
    ∀ items, Quiet (Pattern.searchAll search items).run
  | [] => .run_pure _
  | item :: items =>
      (quiet item).run_bind fun _ =>
        (quiet_searchAll quiet items).run_bind fun _ => .run_pure _

theorem quiet_namesOf (directory : String) :
    Quiet (Pattern.namesOf system directory).run := by
  refine (Quiet.run_lift (careful.listDirectory directory)).run_bind fun found => ?_
  cases found with
  | error failure => exact .run_throw _
  | ok names => exact .run_pure _

theorem quiet_status (path : String) :
    Quiet (liftM (system.status path) : Pattern.Search (StateM Store) (Option Bool)).run :=
  .run_lift (careful.status path)

mutual

theorem quiet_searchBelow :
    ∀ (fuel : Nat) (segments : List Segment) (path : String),
      Quiet (Pattern.searchBelow system directories fuel segments path).run
  | 0, _, _ => by
      rw [Pattern.searchBelow]
      exact .run_pure _
  | fuel + 1, [], _ => by
      unfold Pattern.searchBelow
      exact .run_pure _
  | fuel + 1, segment :: segments, path => by
      rw [Pattern.searchBelow]
      refine (quiet_status careful path).run_bind fun status => ?_
      extract_lets isDirectory reached special
      have quietReached (path : String) : Quiet (reached path).run := by
        refine .run_ite (quiet_searchBelow fuel segments path) ?_
        exact
          (quiet_status careful path).run_bind fun _ =>
            .run_ite (.run_pure _) (.run_pure _)
      split
      · extract_lets name next follow
        have quietFollow (isThere : Bool) : Quiet (follow isThere).run :=
          .run_ite (quietReached next) (.run_pure _)
        refine .run_ite ((Quiet.run_pure _).run_bind quietFollow) ?_
        exact
          (quiet_status careful next).run_bind fun _ =>
            (Quiet.run_pure _).run_bind quietFollow
      · refine .run_ite (.run_pure _) ?_
        exact
          (quiet_searchAll (fun name => quietReached _) _).run_bind fun _ =>
            (quiet_namesOf careful path).run_bind fun _ =>
              (quiet_searchAll (fun name => quiet_searchAt fuel _ path name) _).run_bind
                fun _ => .run_pure _

theorem quiet_searchAt :
    ∀ (fuel : Nat) (segments : List Segment) (directory name : String),
      Quiet (Pattern.searchAt system directories fuel segments directory name).run
  | 0, _, _, _ => by
      rw [Pattern.searchAt]
      exact .run_pure _
  | fuel + 1, segments, directory, name => by
      rw [Pattern.searchAt]
      refine (quiet_status careful _).run_bind fun status => ?_
      extract_lets isDirectory tried collapsed follow
      have quietTried (segments : List Segment) : Quiet (tried segments).run := by
        cases segments with
        | nil => exact .run_pure _
        | cons segment others =>
            refine .run_ite (.run_pure _) ?_
            refine .run_ite (quiet_searchBelow fuel others _) ?_
            exact .run_ite (.run_pure _) (.run_pure _)
      have quietFollow (here : List String) : Quiet (follow here).run :=
        .run_ite ((quiet_searchBelow fuel collapsed _).run_bind fun _ => .run_pure _)
          ((Quiet.run_pure []).run_bind fun _ => .run_pure _)
      split
      · exact .run_pure _
      · refine .run_ite (quietTried (_ :: _)) ?_
        exact
          .run_ite ((Quiet.run_pure _).run_bind quietFollow)
            ((quietTried _).run_bind quietFollow)

end

end

/-! ## Lowering -/

section

variable {read : Reader (StateM Store)} (base : String)

omit careful

theorem quiet_lowerPayload (quiet : ∀ path, Quiet (read path)) (pointer : Pointer)
    (entries : List (String × Json.Value)) :
    Quiet (lowerPayload read base pointer entries).run := by
  unfold lowerPayload
  extract_lets data others file rest follow
  have quietFollow (bytes : List UInt8) : Quiet (follow bytes).run := by
    dsimp only [follow]
    clear_value rest
    split
    · exact .run_pure _
    · exact .run_throw _
  clear_value follow file data
  split
  · refine .run_bind ?_ quietFollow
    cases lowerBytes (pointer ++ [dataKey]) 0 _ with
    | ok bytes => exact .run_pure _
    | error fault => exact .run_throw _
  · exact (Quiet.run_throw _).run_bind quietFollow
  · refine (Quiet.run_lift (quiet _)).run_bind fun found => ?_
    cases found with
    | ok bytes => exact (Quiet.run_pure _).run_bind quietFollow
    | error failure => exact (Quiet.run_throw _).run_bind quietFollow
  · exact (Quiet.run_throw _).run_bind quietFollow
  · exact (Quiet.run_pure _).run_bind quietFollow
  · exact (Quiet.run_throw _).run_bind quietFollow

mutual

theorem quiet_lowerValue (quiet : ∀ path, Quiet (read path)) :
    ∀ (pointer : Pointer) (value : Json.Value),
      Quiet (lowerValue read base pointer value).run
  | _, .null => by
      rw [lowerValue]
      exact .run_pure _
  | _, .bool truth => by
      rw [lowerValue]
      exact .run_pure _
  | _, .number numeral => by
      rw [lowerValue]
      exact .run_pure _
  | _, .string text => by
      rw [lowerValue]
      exact .run_pure _
  | pointer, .array items => by
      rw [lowerValue]
      exact (quiet_lowerItems quiet pointer 0 items).run_bind fun _ => .run_pure _
  | pointer, .object entries => by
      rw [lowerValue]
      refine .run_ite ?_ ?_
      · exact
          (quiet_lowerStreamEntries quiet pointer entries).run_bind fun _ =>
            (quiet_lowerPayload base quiet pointer _).run_bind fun _ => .run_pure _
      · exact (quiet_lowerEntries quiet pointer entries).run_bind fun _ => .run_pure _

theorem quiet_lowerItems (quiet : ∀ path, Quiet (read path)) :
    ∀ (pointer : Pointer) (index : Nat) (items : List Json.Value),
      Quiet (lowerItems read base pointer index items).run
  | _, _, [] => by
      rw [lowerItems]
      exact .run_pure _
  | pointer, index, item :: items => by
      rw [lowerItems]
      exact
        (quiet_lowerValue quiet _ item).run_bind fun _ =>
          (quiet_lowerItems quiet pointer (index + 1) items).run_bind fun _ => .run_pure _

theorem quiet_lowerEntries (quiet : ∀ path, Quiet (read path)) :
    ∀ (pointer : Pointer) (entries : List (String × Json.Value)),
      Quiet (lowerEntries read base pointer entries).run
  | _, [] => by
      rw [lowerEntries]
      exact .run_pure _
  | pointer, (key, value) :: entries => by
      rw [lowerEntries]
      exact
        (quiet_lowerValue quiet _ value).run_bind fun _ =>
          (quiet_lowerEntries quiet pointer entries).run_bind fun _ => .run_pure _

theorem quiet_lowerStreamEntries (quiet : ∀ path, Quiet (read path)) :
    ∀ (pointer : Pointer) (entries : List (String × Json.Value)),
      Quiet (lowerStreamEntries read base pointer entries).run
  | _, [] => by
      rw [lowerStreamEntries]
      exact .run_throw _
  | pointer, (key, value) :: entries => by
      unfold lowerStreamEntries
      cases value with
      | object dictionary =>
          exact
            .run_ite (quiet_lowerEntries quiet _ dictionary)
              (quiet_lowerStreamEntries quiet pointer entries)
      | _ => exact .run_ite (.run_throw _) (quiet_lowerStreamEntries quiet pointer entries)

end

/-! ## Fonts of manifests -/

/-- A font that was loaded has an identifier as its label. -/
def Labelled (result : Except LoadFault ManifestFont) : Prop :=
  ∀ font, result = .ok font → Code.isIdentifier font.label = true

theorem quiet_ofDocument (quiet : ∀ path, Quiet (read path)) (document : Document) :
    Quiet (ManifestFont.ofDocument read base document) := by
  unfold ManifestFont.ofDocument
  split
  · exact .pure _
  · refine (quiet_lowerEntries base quiet _ _).bind fun lowered => ?_
    cases lowered with
    | error fault => exact .pure _
    | ok graph => exact .pure _

theorem labelled_ofDocument (document : Document) (store : Store) :
    Labelled ((ManifestFont.ofDocument read base document).run store).1 := by
  intro font loaded
  rcases accepts_of_ofDocument loaded with ⟨identifier, graph, rfl⟩
  exact identifier

theorem quiet_ofValue (quiet : ∀ path, Quiet (read path)) (value : Json.Value) :
    Quiet (ManifestFont.ofValue read base value) := by
  unfold ManifestFont.ofValue
  split
  · exact .pure _
  · exact quiet_ofDocument base quiet _

theorem labelled_ofValue (value : Json.Value) (store : Store) :
    Labelled ((ManifestFont.ofValue read base value).run store).1 := by
  unfold ManifestFont.ofValue
  split
  · exact nofun
  · exact labelled_ofDocument base _ store

theorem quiet_ofText (quiet : ∀ path, Quiet (read path)) (text : String) :
    Quiet (ManifestFont.ofText read base text) := by
  unfold ManifestFont.ofText
  split
  · exact .pure _
  · exact quiet_ofDocument base quiet _

theorem labelled_ofText (text : String) (store : Store) :
    Labelled ((ManifestFont.ofText read base text).run store).1 := by
  unfold ManifestFont.ofText
  split
  · exact nofun
  · exact labelled_ofDocument base _ store

end

theorem quiet_load (path : String) : Quiet (ManifestFont.load system path) := by
  refine (careful.readText path).bind fun found => ?_
  cases found with
  | error failure => exact .pure _
  | ok text => exact quiet_ofText _ careful.readBytes text

omit careful in
theorem labelled_load (path : String) (store : Store) :
    Labelled ((ManifestFont.load system path).run store).1 := by
  unfold ManifestFont.load
  rw [StateT.run_bind]
  rcases (system.readText path).run store with ⟨found, after⟩
  cases found with
  | error failure => exact nofun
  | ok text => exact labelled_ofText _ text after

/-! ## Sources -/

/-- All labels are identifiers. -/
def AllLabelled (fonts : List ManifestFont) : Prop :=
  ∀ font ∈ fonts, Code.isIdentifier font.label = true

omit careful in
theorem reads_loaded (explain : LoadFault → Failure)
    {result : Except LoadFault ManifestFont} (labelled : Labelled result) :
    Session.Reads (loaded explain result : Session (StateM Store) ManifestFont)
      fun font => Code.isIdentifier font.label = true := by
  unfold loaded
  cases result with
  | error fault => exact .throw _
  | ok font =>
      exact (Session.Reads.log _).bind fun _ _ => .pure (labelled font rfl)

theorem reads_expandPattern (text : String) :
    Session.Reads (expandPattern system text) fun _ => True := by
  unfold expandPattern
  split
  · exact .pure trivial
  · split
    · exact .throw _
    · rename_i pattern read
      have quiet : Quiet (pattern.expand system) :=
        quiet_searchBelow careful _ _ _ _
      have searched :
          Session.Reads (Session.perform (pattern.expand system)) fun _ => True :=
        .perform quiet fun _ => trivial
      refine searched.bind fun found _ => ?_
      split
      · exact .throw _
      · exact .throw _
      · exact .pure trivial

theorem reads_expandPatterns :
    ∀ texts, Session.Reads (expandPatterns system texts) fun _ => True
  | [] => .pure trivial
  | text :: texts =>
      (reads_expandPattern careful text).bind fun _ _ =>
        (reads_expandPatterns texts).bind fun _ _ => .pure trivial

theorem reads_loadDocuments (path : String) :
    ∀ (index : Nat) (documents : List Json.Value),
      Session.Reads (loadDocuments system path index documents) AllLabelled
  | _, [] => .pure nofun
  | index, document :: documents =>
      (Session.Reads.perform (quiet_ofValue _ careful.readBytes document)
        (labelled_ofValue _ document)).bind fun _ labelled =>
          (reads_loaded _ labelled).bind fun _ identifier =>
            (reads_loadDocuments path (index + 1) documents).bind fun _ others =>
              .pure (List.forall_mem_cons.mpr ⟨identifier, others⟩)

theorem reads_loadFiltered (filter path : String) :
    Session.Reads (loadFiltered system runner filter path) AllLabelled := by
  refine
    (Session.Reads.require (.readSource path) (careful.readText path)).bind
      fun text _ => ?_
  split
  · exact .throw _
  · split
    · exact .throw _
    · exact reads_loadDocuments careful path 0 _

theorem reads_loadPath (filter : Option String) (path : String) :
    Session.Reads (loadPath system runner filter path) AllLabelled := by
  cases filter with
  | some filter => exact reads_loadFiltered careful filter path
  | none =>
      refine
        (Session.Reads.perform (quiet_load careful path)
          (labelled_load path)).bind fun _ labelled =>
            (reads_loaded _ labelled).bind fun font identifier => .pure ?_
      exact List.forall_mem_singleton.mpr identifier

theorem reads_loadPaths (filter : Option String) :
    ∀ paths, Session.Reads (loadPaths system runner filter paths) AllLabelled
  | [] => .pure nofun
  | path :: paths =>
      (reads_loadPath careful filter path).bind fun _ first =>
        (reads_loadPaths filter paths).bind fun _ others =>
          .pure (List.forall_mem_append.mpr ⟨first, others⟩)

/-- Loading only reads and logs, and all labels are identifiers then. -/
theorem reads_load (sources : Sources) :
    Session.Reads (sources.load system runner) AllLabelled :=
  (reads_expandPatterns careful sources.patterns).bind fun paths _ =>
    reads_loadPaths careful sources.filter paths

end FontCompiler.Command
