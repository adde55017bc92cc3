import FontCompiler.Factory
import FontCompiler.Proofs.Files.System

/-!
# Sidecars that were written

Sidecars are written into one directory, one after the other, so a later one
replaces an earlier one of the same name.  What a row of them leaves at a place
is the content of the last one that goes there; everywhere else the files are
those that were there before.
-/

namespace FontCompiler.Command

open Factory Files

/-- Sidecars that were written into a directory one after the other. -/
inductive Stored (directory : String) : List Sidecar → Store → Store → Prop
  | nil (store : Store) : Stored directory [] store store
  | cons {sidecar : Sidecar} {sidecars : List Sidecar} {before between after : Store}
      (written :
        before.writeBytes (join directory sidecar.name) sidecar.bytes = .ok between)
      (others : Stored directory sidecars between after) :
      Stored directory (sidecar :: sidecars) before after

/-- The content that sidecars leave at a place: that of the last one that goes there. -/
def lastAt (around : Place) : List Sidecar → Place → Option (List UInt8)
  | [], _ => none
  | sidecar :: sidecars, place =>
    (lastAt around sidecars place).or
      (if around.child sidecar.name = place then some sidecar.bytes else none)

theorem lastAt_eq_none {around place : Place} {sidecars : List Sidecar}
    (elsewhere : ∀ sidecar ∈ sidecars, around.child sidecar.name ≠ place) :
    lastAt around sidecars place = none := by
  induction sidecars with
  | nil => rfl
  | cons sidecar sidecars ih =>
      rw [List.forall_mem_cons] at elsewhere
      rw [lastAt, ih elsewhere.2, if_neg elsewhere.1]
      rfl

/-- Sidecars that agree at a place leave there what they agree on. -/
theorem lastAt_eq_some {around place : Place} {sidecars : List Sidecar}
    {bytes : List UInt8}
    (agree : ∀ sidecar ∈ sidecars, around.child sidecar.name = place →
      sidecar.bytes = bytes)
    (goes : ∃ sidecar ∈ sidecars, around.child sidecar.name = place) :
    lastAt around sidecars place = some bytes := by
  induction sidecars with
  | nil =>
      rcases goes with ⟨sidecar, member, -⟩
      cases member
  | cons head sidecars ih =>
      rw [List.forall_mem_cons] at agree
      rw [lastAt]
      by_cases behind : ∃ sidecar ∈ sidecars, around.child sidecar.name = place
      · rw [ih agree.2 behind]
        rfl
      · have none : lastAt around sidecars place = none :=
          lastAt_eq_none fun sidecar member same => behind ⟨sidecar, member, same⟩
        rcases goes with ⟨sidecar, member, here⟩
        rcases List.mem_cons.mp member with rfl | later
        · rw [none, if_pos here, agree.1 here]
          rfl
        · exact absurd ⟨sidecar, later, here⟩ behind

/-- The files of one store are those of another, except for sidecars in a directory. -/
structure Leaves (directory : String) (sidecars : List Sidecar) (before after : Store) :
    Prop where
  retains : Store.Retains before after
  files : ∃ around : Place,
    (∀ sidecar ∈ sidecars,
      after.target (join directory sidecar.name) =
        .ok (around.child sidecar.name, false)) ∧
      ∀ place,
        after.file? place = (lastAt around sidecars place).or (before.file? place)

namespace Leaves

variable {directory : String} {sidecars : List Sidecar} {before begun between after : Store}

theorem of_furnishes {front back : String} (first : Furnishes front before begun)
    (leaves : Leaves directory sidecars begun between)
    (second : Furnishes back between after) : Leaves directory sidecars before after := by
  rcases leaves with ⟨retains, around, targets, files⟩
  refine ⟨first.retains.trans (retains.trans second.retains), around, ?_, ?_⟩
  · intro sidecar member
    exact second.retains.target (targets sidecar member)
  · intro place
    rw [second.files, files, first.files]

/-- Where no sidecar goes, the file is the one that was there. -/
theorem file?_eq (leaves : Leaves directory sidecars before after) {path : String}
    (apart : ∀ sidecar ∈ sidecars, ¬ after.SamePlace path (join directory sidecar.name))
    {place : Place} (leads : after.LeadsTo path place) :
    after.file? place = before.file? place := by
  rcases leaves.files with ⟨around, targets, files⟩
  rw [files, lastAt_eq_none, Option.none_or]
  rintro sidecar member rfl
  exact apart sidecar member ⟨_, leads, false, targets sidecar member⟩

end Leaves

namespace Stored

variable {directory : String} {first second sidecars : List Sidecar}
  {before between after : Store}

theorem append (front : Stored directory first before between)
    (back : Stored directory second between after) :
    Stored directory (first ++ second) before after := by
  induction front with
  | nil store => exact back
  | cons written others ih => exact .cons written (ih back)

theorem exists_of_append (stored : Stored directory (first ++ second) before after) :
    ∃ between, Stored directory first before between ∧
      Stored directory second between after := by
  induction first generalizing before with
  | nil => exact ⟨before, .nil before, stored⟩
  | cons sidecar first ih =>
      cases stored with
      | cons written others =>
          rcases ih others with ⟨middle, front, back⟩
          exact ⟨middle, .cons written front, back⟩

theorem sameDirectories (stored : Stored directory sidecars before after) :
    Store.SameDirectories before after := by
  induction stored with
  | nil store => exact .refl store
  | cons written others ih => exact (Store.SameDirectories.of_writeBytes_ok written).trans ih

/-- Sidecars that can be stored can be stored wherever the directories are the same. -/
theorem exists_of_sameDirectories (stored : Stored directory sidecars before after) :
    ∀ {other : Store}, Store.SameDirectories before other →
      ∃ otherAfter, Stored directory sidecars other otherAfter := by
  induction stored with
  | nil store => exact fun {other} _ => ⟨other, .nil other⟩
  | cons written others ih =>
      intro other same
      rcases same.exists_of_writeBytes_ok written with ⟨otherBetween, rewritten, later⟩
      rcases ih later with ⟨otherAfter, restored⟩
      exact ⟨otherAfter, .cons rewritten restored⟩

theorem retains (stored : Stored directory sidecars before after) :
    Store.Retains before after :=
  stored.sameDirectories.retains

theorem exists_target (stored : Stored directory sidecars before after) :
    ∀ sidecar ∈ sidecars, ∃ place,
      after.target (join directory sidecar.name) = .ok (place, false) := by
  induction stored with
  | nil store => exact nofun
  | cons written others ih =>
      rcases Store.exists_of_writeBytes_ok written with ⟨place, leads, -, rfl⟩
      have behind := (Store.retains_of_writeBytes_ok written).trans others.retains
      exact List.forall_mem_cons.mpr ⟨⟨place, behind.target leads⟩, ih⟩

theorem file?_eq (stored : Stored directory sidecars before after)
    (names : ∀ sidecar ∈ sidecars, IsName sidecar.name) {around : Place}
    (there :
      after.walk (Place.start directory) (segments directory) = .ok around) :
    ∀ place,
      after.file? place = (lastAt around sidecars place).or (before.file? place) := by
  induction stored with
  | nil store =>
      intro place
      rfl
  | @cons sidecar sidecars before between after written others ih =>
      intro place
      rw [List.forall_mem_cons] at names
      have retains := (Store.retains_of_writeBytes_ok written).trans others.retains
      rcases Store.exists_of_writeBytes_ok written with
        ⟨target, leads, noDirectory, rfl⟩
      rcases Store.exists_directory_of_target names.1 leads with
        ⟨-, found, walked, -, rfl⟩
      cases Except.ok.inj ((retains.walk walked).symm.trans there)
      rw [ih names.2 there, lastAt, Option.or_assoc,
        Store.file?_put_file (Store.names_ne_nil noDirectory)]
      split <;> rfl

theorem leaves (stored : Stored directory sidecars before after)
    (names : ∀ sidecar ∈ sidecars, IsName sidecar.name) :
    Leaves directory sidecars before after := by
  have targets := stored.exists_target
  cases sidecars with
  | nil =>
      cases stored
      exact ⟨.refl before, Place.start directory, nofun, fun _ => rfl⟩
  | cons sidecar sidecars =>
      rcases targets sidecar List.mem_cons_self with ⟨place, leads⟩
      rcases Store.exists_directory_of_target (names _ List.mem_cons_self) leads with
        ⟨-, around, there, -⟩
      refine ⟨stored.retains, around, ?_, stored.file?_eq names there⟩
      intro other member
      rcases targets other member with ⟨otherPlace, otherLeads⟩
      rcases Store.exists_directory_of_target (names other member) otherLeads with
        ⟨-, again, thereAgain, -, rfl⟩
      cases Except.ok.inj (there.symm.trans thereAgain)
      exact otherLeads

end Stored

end FontCompiler.Command
