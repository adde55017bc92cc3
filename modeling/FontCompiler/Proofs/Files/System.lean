import FontCompiler.Proofs.Files.Store

/-!
# Careful file systems

A file system is careful if its operations do to a store what they are meant to
do, or else fail and leave it as it was.  Why and when an operation fails is
left open, and so is what is read.

The creation of directories then changes no file, and reading changes nothing.
-/

namespace FontCompiler.Files

/-- The operation leaves every store as it is. -/
def Quiet {α : Type} (operation : StateM Store α) : Prop :=
  ∀ store, (operation.run store).2 = store

namespace Quiet

variable {α β : Type}

theorem pure (value : α) : Quiet (Pure.pure value) :=
  fun _ => rfl

theorem bind {operation : StateM Store α} {next : α → StateM Store β}
    (first : Quiet operation) (others : ∀ value, Quiet (next value)) :
    Quiet (operation >>= next) := by
  intro store
  have here := first store
  have behind := others (operation.run store).1 (operation.run store).2
  exact behind.trans here

variable {ε : Type}

theorem run_pure (value : α) :
    Quiet (Pure.pure value : ExceptT ε (StateM Store) α).run :=
  fun _ => rfl

theorem run_throw (fault : ε) :
    Quiet (throw fault : ExceptT ε (StateM Store) α).run :=
  fun _ => rfl

theorem run_lift {operation : StateM Store α} (quiet : Quiet operation) :
    Quiet (liftM operation : ExceptT ε (StateM Store) α).run :=
  quiet

theorem run_ite {condition : Prop} [Decidable condition]
    {yes no : ExceptT ε (StateM Store) α} (first : Quiet yes.run)
    (second : Quiet no.run) : Quiet (if condition then yes else no).run := by
  split
  · exact first
  · exact second

theorem run_bind {operation : ExceptT ε (StateM Store) α}
    {next : α → ExceptT ε (StateM Store) β} (first : Quiet operation.run)
    (others : ∀ value, Quiet (next value).run) :
    Quiet (operation >>= next).run := by
  rw [ExceptT.run_bind]
  refine first.bind fun result => ?_
  cases result with
  | error fault => exact .pure _
  | ok value => exact others value

end Quiet

/-- An operation on a store has the effect that it is meant to have, or none. -/
def Attempts (operation : StateM Store (Except Failure Unit))
    (effect : Store → Except Failure Store) : Prop :=
  ∀ store,
    (∃ after, effect store = .ok after ∧ operation.run store = (.ok (), after)) ∨
      ∃ failure, operation.run store = (.error failure, store)

/-- The operations of a system keep to the store. -/
structure Careful (system : System (StateM Store)) : Prop where
  readBytes : ∀ path, Quiet (system.readBytes path)
  status : ∀ path, Quiet (system.status path)
  listDirectory : ∀ path, Quiet (system.listDirectory path)
  writeBytes : ∀ path bytes,
    Attempts (system.writeBytes path bytes) (·.writeBytes path bytes)
  makeDirectory : ∀ path, Attempts (system.makeDirectory path) (·.makeDirectory path)

theorem attempts_modifyGet (effect : Store → Except Failure Store) :
    Attempts
      (modifyGet fun store =>
        match effect store with
        | .ok store => (.ok (), store)
        | .error failure => (.error failure, store))
      effect := by
  intro store
  cases done : effect store with
  | ok after =>
      refine .inl ⟨after, rfl, ?_⟩
      rw [StateT.run_modifyGet, done]
      rfl
  | error failure =>
      refine .inr ⟨failure, ?_⟩
      rw [StateT.run_modifyGet, done]
      rfl

theorem careful_system : Careful Store.system where
  readBytes _ := fun _ => rfl
  status _ := fun _ => rfl
  listDirectory _ := fun _ => rfl
  writeBytes path bytes := attempts_modifyGet (·.writeBytes path bytes)
  makeDirectory path := attempts_modifyGet (·.makeDirectory path)

/-! ## Making directories -/

/-- The paths of a directory and of the directories around it. -/
inductive Around (directory : String) : String → Prop
  | self : Around directory directory
  | parent {path above : String} (inside : Around directory path)
      (next : parent? path = some above) : Around directory above

theorem Around.of_parent {directory above : String}
    (next : parent? directory = some above) {path : String}
    (around : Around above path) : Around directory path := by
  induction around with
  | self => exact .parent .self next
  | parent inside further ih => exact .parent ih further

/-- A store differs from another at most by new directories on the way to a given one. -/
structure Furnishes (directory : String) (before after : Store) : Prop where
  retains : Store.Retains before after
  files : after.file? = before.file?
  fresh : ∀ place, after.entry? place ≠ before.entry? place →
    ∃ path, Around directory path ∧ after.LeadsTo path place

namespace Furnishes

variable {directory : String} {before after last : Store}

theorem refl (directory : String) (store : Store) : Furnishes directory store store :=
  ⟨.refl store, rfl, fun _ differs => absurd rfl differs⟩

theorem trans (first : Furnishes directory before after)
    (second : Furnishes directory after last) : Furnishes directory before last := by
  refine ⟨first.retains.trans second.retains, second.files.trans first.files, ?_⟩
  intro place differs
  by_cases late : last.entry? place = after.entry? place
  · rw [late] at differs
    rcases first.fresh place differs with ⟨path, around, leads⟩
    exact ⟨path, around, second.retains.leadsTo leads⟩
  · exact second.fresh place late

theorem of_parent {above : String} (next : parent? directory = some above)
    (furnishes : Furnishes above before after) : Furnishes directory before after := by
  refine ⟨furnishes.retains, furnishes.files, ?_⟩
  intro place differs
  rcases furnishes.fresh place differs with ⟨path, around, leads⟩
  exact ⟨path, around.of_parent next, leads⟩

theorem of_makeDirectory_ok (made : before.makeDirectory directory = .ok after) :
    Furnishes directory before after := by
  rcases Store.exists_of_makeDirectory_ok made with ⟨place, leads, vacant, rfl⟩
  have noDirectory : before.entry? place ≠ some .directory := by simp [vacant]
  have retains := Store.Retains.put noDirectory .directory
  refine ⟨retains, funext (Store.file?_put_directory vacant), ?_⟩
  intro other differs
  rw [Store.entry?_put (Store.names_ne_nil noDirectory)] at differs
  by_cases same : place = other
  · rw [← same]
    exact ⟨directory, .self, retains.leadsTo leads⟩
  · rw [if_neg same] at differs
    exact absurd rfl differs

end Furnishes

/-- The operation makes directories on the way to a given one at most. -/
def Furnishing {α : Type} (directory : String) (operation : StateM Store α) : Prop :=
  ∀ store, Furnishes directory store (operation.run store).2

namespace Furnishing

variable {α β : Type} {directory : String}

theorem quiet {operation : StateM Store α} (quiet : Quiet operation) :
    Furnishing directory operation := by
  intro store
  rw [quiet store]
  exact .refl directory store

theorem bind {operation : StateM Store α} {next : α → StateM Store β}
    (first : Furnishing directory operation)
    (others : ∀ value, Furnishing directory (next value)) :
    Furnishing directory (operation >>= next) :=
  fun store =>
    (first store).trans (others (operation.run store).1 (operation.run store).2)

end Furnishing

namespace Careful

variable {system : System (StateM Store)} (careful : Careful system)

include careful

theorem readText (path : String) : Quiet (system.readText path) := by
  refine (careful.readBytes path).bind fun found => ?_
  cases found with
  | error failure => exact .pure _
  | ok bytes =>
      dsimp only
      split
      · exact .pure _
      · exact .pure _

theorem settle (path : String) (outcome : Except Failure Unit) :
    Quiet (System.makeDirectories.settle system path outcome) := by
  cases outcome with
  | ok done => exact .pure _
  | error failure =>
      refine (careful.status path).bind fun found => ?_
      split
      · exact .pure _
      · exact .pure _

theorem makeDirectory_furnishing (path : String) :
    Furnishing path (system.makeDirectory path) := by
  intro store
  rcases careful.makeDirectory path store with ⟨after, made, ran⟩ | ⟨failure, ran⟩
  · rw [ran]
    exact .of_makeDirectory_ok made
  · rw [ran]
    exact .refl path store

theorem makeDirectories_furnishing (fuel : Nat) :
    ∀ path, Furnishing path (system.makeDirectories fuel path) := by
  induction fuel with
  | zero =>
      intro path
      exact .quiet (.pure _)
  | succ fuel ih =>
      intro path
      rw [System.makeDirectories]
      split
      · exact .quiet (.pure _)
      · rename_i parent above
        have around : Furnishing path (system.makeDirectories fuel parent) :=
          fun store => (ih parent store).of_parent above
        refine .bind (careful.makeDirectory_furnishing path) fun outcome => ?_
        split
        · exact .quiet (.pure _)
        · refine .bind around fun outcome => ?_
          split
          · exact .quiet (.pure _)
          · exact
              .bind (careful.makeDirectory_furnishing path) fun outcome =>
                .quiet (careful.settle path outcome)
        · exact .quiet (careful.settle path _)

theorem ensureDirectory_furnishing (path : String) :
    Furnishing path (system.ensureDirectory path) :=
  careful.makeDirectories_furnishing (path.length + 1) path

end Careful

end FontCompiler.Files
