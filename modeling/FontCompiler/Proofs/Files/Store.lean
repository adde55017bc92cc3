import FontCompiler.Files.Store
import FontCompiler.Proofs.Except
import FontCompiler.Proofs.Files.Path
import FontCompiler.Proofs.Ordered

/-!
# What operations leave of a store

No operation removes a directory.  So a path that can be followed leads to the
same place ever after, and what was written there is read again, until the same
place is written once more.

The names in one directory lead to different places, however the directory is
spelled.
-/

namespace FontCompiler.Files

theorem Place.child_injective {place : Place} {first second : String}
    (same : place.child first = place.child second) : first = second := by
  have names := congrArg Place.names same
  simpa [child] using names

namespace Store

variable {store before after last : Store}

/-! ## Entries -/

/-- The content of the file at a place. -/
def file? (store : Store) (place : Place) : Option (List UInt8) :=
  match store.entry? place with
  | some (.file bytes) => some bytes
  | _ => none

theorem file?_eq_some_iff {place : Place} {bytes : List UInt8} :
    store.file? place = some bytes ↔ store.entry? place = some (.file bytes) := by
  unfold file?
  split
  · rename_i found shape
    simp [shape]
  · rename_i other
    exact ⟨nofun, fun shape => absurd shape (other bytes)⟩

theorem names_ne_nil {place : Place}
    (noDirectory : store.entry? place ≠ some .directory) : place.names ≠ [] := by
  intro root
  exact noDirectory (by simp [root, entry?])

theorem entry?_put {place : Place} (named : place.names ≠ []) (entry : Entry)
    (other : Place) :
    Store.entry? (store.put place entry) other =
      if place = other then some entry else store.entry? other := by
  unfold entry?
  split
  · rename_i root
    rw [if_neg]
    intro same
    rw [same] at named
    exact named (List.isEmpty_iff.mp root)
  · exact Ordered.get?_insert place other entry store.entries

theorem file?_put_file {place : Place} (named : place.names ≠ [])
    (bytes : List UInt8) (other : Place) :
    (store.put place (.file bytes)).file? other =
      if place = other then some bytes else store.file? other := by
  rw [file?, entry?_put named]
  by_cases same : place = other
  · simp [same]
  · simp [same, file?]

theorem file?_put_directory {place : Place} (vacant : store.entry? place = none)
    (other : Place) :
    (store.put place .directory).file? other = store.file? other := by
  have noDirectory : store.entry? place ≠ some .directory := by simp [vacant]
  have named := names_ne_nil noDirectory
  rw [file?, entry?_put named]
  by_cases same : place = other
  · simp [← same, file?, vacant]
  · simp [same, file?]

/-! ## Places of paths -/

/-- The segments of a path without the empty ones at its end. -/
def namedSegments (path : String) : List String :=
  ((segments path).reverse.dropWhile (· == "")).reverse

theorem target_eq (path : String) :
    store.target path = do
      checkPath path
      let place ← store.walk (Place.start path) (namedSegments path)
      return (place,
        decide ((namedSegments path).length < (segments path).reverse.length)) :=
  rfl

theorem target_eq_ok_iff {path : String} {place : Place} {slash : Bool} :
    store.target path = .ok (place, slash) ↔
      checkPath path = .ok () ∧
        store.walk (Place.start path) (namedSegments path) = .ok place ∧
        slash =
          decide ((namedSegments path).length < (segments path).reverse.length) := by
  rw [target_eq]
  constructor
  · intro leads
    rcases exists_of_bind_ok leads with ⟨done, checked, leads⟩
    rcases exists_of_bind_ok leads with ⟨found, walked, finished⟩
    cases finished
    exact ⟨checked, walked, rfl⟩
  · rintro ⟨checked, walked, rfl⟩
    rw [checked, ok_bind, walked, ok_bind]
    rfl

theorem namedSegments_eq {path : String}
    (whole : ¬ (namedSegments path).length < (segments path).reverse.length) :
    namedSegments path = segments path := by
  have kept :
      (segments path).reverse.dropWhile (· == "") = (segments path).reverse := by
    refine (List.dropWhile_suffix _).eq_of_length_le ?_
    rw [namedSegments, List.length_reverse] at whole
    exact Nat.le_of_not_lt whole
  rw [namedSegments, kept, List.reverse_reverse]

theorem walk_append (front back : List String) :
    ∀ place, store.walk place (front ++ back) =
      store.walk place front >>= fun middle => store.walk middle back := by
  induction front with
  | nil =>
      intro place
      rfl
  | cons segment front ih =>
      intro place
      rw [List.cons_append, walk, walk]
      cases store.step place segment with
      | error failure => rfl
      | ok next => exact ih next

/-- A path leads to a place, whether there is an entry or not. -/
def LeadsTo (store : Store) (path : String) (place : Place) : Prop :=
  ∃ slash, store.target path = .ok (place, slash)

theorem directory_of_step {place next : Place} {segment : String}
    (stepped : store.step place segment = .ok next) :
    store.entry? place = some .directory := by
  unfold step at stepped
  split at stepped
  · cases stepped
  · cases stepped
  · rename_i directory
    exact directory

/-- A path to a file does not end in an empty segment. -/
theorem namedSegments_eq_of_walk {path : String} {place : Place}
    (walked : store.walk (Place.start path) (segments path) = .ok place)
    (noDirectory : store.entry? place ≠ some .directory) :
    namedSegments path = segments path := by
  rcases List.eq_nil_or_concat (segments path) with none | ⟨front, last, shape⟩
  · rw [namedSegments, none]
    rfl
  · by_cases idle : last = ""
    · -- an empty segment stays in the directory in front of it
      rw [shape, List.concat_eq_append, walk_append, idle] at walked
      rcases exists_of_bind_ok walked with ⟨middle, -, stepped⟩
      rw [walk] at stepped
      rcases exists_of_bind_ok stepped with ⟨next, stepped, finished⟩
      cases finished
      have directory := directory_of_step stepped
      rw [step, directory] at stepped
      cases stepped
      exact absurd directory noDirectory
    · rw [namedSegments, shape, List.concat_eq_append]
      simp [idle]

/-! ## Directories stay -/

/-- Every directory of one store is a directory of the other. -/
def Retains (before after : Store) : Prop :=
  ∀ place, before.entry? place = some .directory →
    after.entry? place = some .directory

namespace Retains

theorem refl (store : Store) : Retains store store :=
  fun _ => id

theorem trans (first : Retains before after) (second : Retains after last) :
    Retains before last :=
  fun place directory => second place (first place directory)

theorem put {place : Place} (noDirectory : store.entry? place ≠ some .directory)
    (entry : Entry) : Retains store (store.put place entry) := by
  intro other directory
  rw [entry?_put (names_ne_nil noDirectory), if_neg]
  · exact directory
  · intro same
    rw [same] at noDirectory
    exact noDirectory directory

theorem step (retains : Retains before after) {place next : Place}
    {segment : String} (stepped : before.step place segment = .ok next) :
    after.step place segment = .ok next := by
  unfold Store.step at stepped ⊢
  split at stepped
  · cases stepped
  · cases stepped
  · rename_i directory
    rw [retains place directory]
    exact stepped

theorem walk (retains : Retains before after) {segments : List String} :
    ∀ {place next : Place}, before.walk place segments = .ok next →
      after.walk place segments = .ok next := by
  induction segments with
  | nil =>
      intro place next walked
      exact walked
  | cons segment segments ih =>
      intro place next walked
      rw [Store.walk] at walked ⊢
      rcases exists_of_bind_ok walked with ⟨middle, first, others⟩
      rw [retains.step first]
      exact ih others

theorem target (retains : Retains before after) {path : String} {place : Place}
    {slash : Bool} (leads : before.target path = .ok (place, slash)) :
    after.target path = .ok (place, slash) := by
  rw [target_eq_ok_iff] at leads ⊢
  exact ⟨leads.1, retains.walk leads.2.1, leads.2.2⟩

theorem leadsTo (retains : Retains before after) {path : String} {place : Place}
    (leads : before.LeadsTo path place) : after.LeadsTo path place := by
  rcases leads with ⟨slash, leads⟩
  exact ⟨slash, retains.target leads⟩

end Retains

/-! ## Writing -/

theorem exists_of_writeBytes_ok {path : String} {bytes : List UInt8}
    (written : before.writeBytes path bytes = .ok after) :
    ∃ place, before.target path = .ok (place, false) ∧
      before.entry? place ≠ some .directory ∧
      after = before.put place (.file bytes) := by
  unfold writeBytes at written
  rcases exists_of_bind_ok written with ⟨⟨place, slash⟩, leads, written⟩
  refine ⟨place, ?_⟩
  rw [leads]
  simp only at written
  split at written
  · cases written
  · cases written
  · cases written
  · rename_i noDirectory
    cases written
    exact ⟨rfl, noDirectory, rfl⟩

theorem writeBytes_of_target {path : String} {place : Place}
    (leads : store.target path = .ok (place, false))
    (noDirectory : store.entry? place ≠ some .directory) (bytes : List UInt8) :
    store.writeBytes path bytes = .ok (store.put place (.file bytes)) := by
  rw [writeBytes, leads, ok_bind]
  dsimp only
  cases there : store.entry? place with
  | none => rfl
  | some entry =>
      cases entry with
      | file content => rfl
      | directory => exact absurd there noDirectory

theorem exists_of_makeDirectory_ok {path : String}
    (made : before.makeDirectory path = .ok after) :
    ∃ place, before.LeadsTo path place ∧ before.entry? place = none ∧
      after = before.put place .directory := by
  unfold makeDirectory at made
  rcases exists_of_bind_ok made with ⟨⟨place, slash⟩, leads, made⟩
  refine ⟨place, ⟨slash, leads⟩, ?_⟩
  simp only at made
  split at made
  · cases made
  · rename_i vacant
    cases made
    exact ⟨vacant, rfl⟩

/-! ## No directories but those -/

/-- The directories of both stores are the same. -/
structure SameDirectories (before after : Store) : Prop where
  retains : Retains before after
  noMore : Retains after before

namespace SameDirectories

theorem refl (store : Store) : SameDirectories store store :=
  ⟨.refl store, .refl store⟩

theorem symm (same : SameDirectories before after) : SameDirectories after before :=
  ⟨same.noMore, same.retains⟩

theorem trans (first : SameDirectories before after) (second : SameDirectories after last) :
    SameDirectories before last :=
  ⟨first.retains.trans second.retains, second.noMore.trans first.noMore⟩

theorem put_file {place : Place} (noDirectory : store.entry? place ≠ some .directory)
    (bytes : List UInt8) : SameDirectories store (store.put place (.file bytes)) := by
  refine ⟨.put noDirectory _, fun other directory => ?_⟩
  rw [entry?_put (names_ne_nil noDirectory)] at directory
  split at directory
  · cases directory
  · exact directory

theorem of_writeBytes_ok {path : String} {bytes : List UInt8}
    (written : before.writeBytes path bytes = .ok after) : SameDirectories before after := by
  rcases exists_of_writeBytes_ok written with ⟨place, -, noDirectory, rfl⟩
  exact .put_file noDirectory bytes

/-- A file that can be written can be written wherever the directories are the same. -/
theorem exists_of_writeBytes_ok {other : Store} (same : SameDirectories before other)
    {path : String} {bytes : List UInt8}
    (written : before.writeBytes path bytes = .ok after) :
    ∃ otherAfter, other.writeBytes path bytes = .ok otherAfter ∧
      SameDirectories after otherAfter := by
  rcases Store.exists_of_writeBytes_ok written with ⟨place, leads, noDirectory, rfl⟩
  have stillNone : other.entry? place ≠ some .directory :=
    fun directory => noDirectory (same.noMore place directory)
  refine ⟨_, writeBytes_of_target (same.retains.target leads) stillNone bytes, ?_⟩
  exact ((put_file noDirectory bytes).symm.trans same).trans (put_file stillNone bytes)

end SameDirectories

theorem retains_of_writeBytes_ok {path : String} {bytes : List UInt8}
    (written : before.writeBytes path bytes = .ok after) :
    Retains before after :=
  (SameDirectories.of_writeBytes_ok written).retains

/-! ## Reading what was written -/

theorem readBytes_of_target {path : String} {place : Place} {bytes : List UInt8}
    (leads : store.target path = .ok (place, false))
    (there : store.file? place = some bytes) :
    store.readBytes path = .ok bytes := by
  rw [target_eq_ok_iff] at leads
  rcases leads with ⟨checked, walked, whole⟩
  rw [namedSegments_eq (of_decide_eq_false whole.symm)] at walked
  rw [readBytes, resolve, checked, ok_bind, walked, ok_bind,
    file?_eq_some_iff.mp there]
  rfl

theorem exists_target_of_readBytes {path : String} {bytes : List UInt8}
    (read : store.readBytes path = .ok bytes) :
    ∃ place, store.target path = .ok (place, false) ∧
      store.file? place = some bytes := by
  rw [readBytes, resolve] at read
  rcases exists_of_bind_ok read with ⟨⟨place, entry⟩, resolved, read⟩
  rcases exists_of_bind_ok resolved with ⟨done, checked, resolved⟩
  rcases exists_of_bind_ok resolved with ⟨found, walked, resolved⟩
  split at resolved
  · rename_i there
    cases resolved
    cases entry with
    | directory => cases read
    | file content =>
        cases read
        have named := namedSegments_eq_of_walk walked (by simp [there])
        refine ⟨place, ?_, file?_eq_some_iff.mpr there⟩
        rw [target_eq_ok_iff, named]
        exact ⟨checked, walked, by simp⟩
  · cases resolved

/-! ## Names in a directory -/

section

variable {directory name : String} {place : Place}

theorem step_of_isName (isName : IsName name) {next : Place}
    (stepped : store.step place name = .ok next) : next = place.child name := by
  unfold step at stepped
  split at stepped
  · cases stepped
  · cases stepped
  · rw [if_neg (by simp [isName.nonempty, isName.notHere]), if_neg isName.notUp]
      at stepped
    split at stepped
    · cases stepped
    · cases stepped
      rfl

/-- A name that is joined to a directory leads to its place in that directory. -/
theorem exists_directory_of_target (isName : IsName name) {slash : Bool}
    (leads : store.target (join directory name) = .ok (place, slash)) :
    slash = false ∧
      ∃ around,
        store.walk (Place.start directory) (segments directory) = .ok around ∧
          store.entry? around = some .directory ∧ place = around.child name := by
  rcases segments_join directory isName with ⟨base, joined, own⟩
  rw [target_eq_ok_iff] at leads
  rcases leads with ⟨checked, walked, ended⟩
  have named : namedSegments (join directory name) = base ++ [name] := by
    simp [namedSegments, joined, isName.nonempty]
  have start : Place.start (join directory name) = Place.start directory := by
    rw [Place.start, Place.start, isAbsolute_join directory isName]
  rw [named, joined] at ended
  rw [named, start, walk_append] at walked
  rcases exists_of_bind_ok walked with ⟨around, there, stepped⟩
  rw [walk] at stepped
  rcases exists_of_bind_ok stepped with ⟨next, stepped, finished⟩
  cases finished
  refine
    ⟨by simpa using ended, around, ?_, directory_of_step stepped,
      step_of_isName isName stepped⟩
  rcases own with own | own
  · rw [own]
    exact there
  · -- an empty segment at the end stays in the directory
    rw [own, walk_append, there, ok_bind, walk, step, directory_of_step stepped]
    rfl

end

/-- Two paths lead to the same place; an absolute path and a relative one never do. -/
def SamePlace (store : Store) (first second : String) : Prop :=
  ∃ place, store.LeadsTo first place ∧ store.LeadsTo second place

theorem SamePlace.target_eq {first second : String}
    (same : store.SamePlace first second) :
    (store.target first).toOption.map Prod.fst =
      (store.target second).toOption.map Prod.fst := by
  rcases same with ⟨place, ⟨slash, leads⟩, ⟨slash', leads'⟩⟩
  rw [leads, leads']
  rfl

theorem name_eq_of_samePlace {directory name other : String} (isName : IsName name)
    (isNameOther : IsName other)
    (same : store.SamePlace (join directory name) (join directory other)) :
    name = other := by
  rcases same with ⟨place, ⟨slash, first⟩, ⟨slash', second⟩⟩
  rcases exists_directory_of_target isName first with ⟨-, around, there, -, equal⟩
  rcases exists_directory_of_target isNameOther second with
    ⟨-, around', there', -, equal'⟩
  cases Except.ok.inj (there.symm.trans there')
  exact Place.child_injective (equal.symm.trans equal')

end Store

end FontCompiler.Files
