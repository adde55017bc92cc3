import FontCompiler.Proofs.Command.Compiling
import FontCompiler.Proofs.Manifest.Fonts

/-!
# Sidecars stay in their directory

A sidecar is named after a key of a manifest as it is written there, while only
the binding made of the key is checked.  The check suffices: whatever keys stand
in the graph of a font, the name of a sidecar is that of an entry of a
directory, so writing it puts a file directly into the directory or changes
nothing.
-/

namespace FontCompiler.Command

open Factory Files Manifest

/-- What becomes of a store where a file is to be written under a name into a directory. -/
inductive Placing (directory name : String) (bytes : List UInt8) (store : Store) :
    Except Files.Failure Unit × Store → Prop
  | placed {around : Place}
      (there : store.walk (Place.start directory) (segments directory) = .ok around)
      (inside : store.entry? around = some .directory)
      (noDirectory : store.entry? (around.child name) ≠ some .directory) :
      Placing directory name bytes store (.ok (), store.put (around.child name) (.file bytes))
  | failed {failure : Files.Failure} :
      Placing directory name bytes store (.error failure, store)

theorem placing {system : System (StateM Store)} (careful : Careful system) {name : String}
    (isName : IsName name) (directory : String) (bytes : List UInt8) (store : Store) :
    Placing directory name bytes store
      ((system.writeBytes (join directory name) bytes).run store) := by
  rcases careful.writeBytes (join directory name) bytes store with
    ⟨after, written, ran⟩ | ⟨failure, ran⟩
  · rw [ran]
    rcases Store.exists_of_writeBytes_ok written with ⟨place, leads, noDirectory, rfl⟩
    rcases Store.exists_directory_of_target isName leads with
      ⟨-, around, there, inside, rfl⟩
    exact .placed there inside noDirectory
  · rw [ran]
    exact .failed

theorem isSidecarName_of_compile {subset : Subset ManifestFont} {label : String}
    {own : CompiledFont} (identifier : Code.isIdentifier label = true)
    (compiled : (subset.compile label).result = .ok own) :
    ∀ sidecar ∈ own.sidecars, IsSidecarName sidecar.name := by
  rcases exists_product_of_compile compiled with ⟨product, written, rfl⟩
  intro sidecar member
  rw [compile_sidecars written] at member
  rcases exists_of_mem_sidecarsOf member with ⟨declaration, declares, -, -, name⟩
  rw [name]
  exact
    isSidecarName_sidecarName identifier (isIdentifier_of_compile written declaration declares)

/-- However the keys of a manifest are spelled, a sidecar is written directly into its directory. -/
theorem sidecars_confined {σ : Type} {read : Reader (StateM σ)} {base : String}
    {document : Document} {state : σ} {font : ManifestFont} {requests : List (Nat × Nat)}
    {own : CompiledFont}
    (accepted : ((ManifestFont.ofDocument read base document).run state).1 = .ok font)
    (compiled :
      (((Subset.ofFont font).requestAll requests).compile font.label).result = .ok own) :
    ∀ sidecar ∈ own.sidecars,
      IsSidecarName sidecar.name ∧
        ∀ system : System (StateM Store), Careful system → ∀ directory store,
          Placing directory sidecar.name sidecar.bytes store
            ((system.writeBytes (join directory sidecar.name) sidecar.bytes).run store) := by
  have identifier : Code.isIdentifier font.label = true := by
    rcases accepts_of_ofDocument accepted with ⟨identifier, graph, rfl⟩
    exact identifier
  intro sidecar member
  have named := isSidecarName_of_compile identifier compiled sidecar member
  exact
    ⟨named, fun system careful directory store =>
      placing careful named.toIsName directory sidecar.bytes store⟩

/-- A manifest whose only stream hangs off a key that starts with a Kelvin sign. -/
def kelvinDocument : Document :=
  ⟨"Bold", 2, [], [], [],
    [("\u212Aids", .array [.object [("$stream", .object []), ("$file", .string "outline")]])]⟩

/-- The font of that manifest, where every file holds the same bytes. -/
def kelvinFont : Except LoadFault ManifestFont :=
  ((ManifestFont.ofDocument (m := StateM Unit) (fun _ => return .ok (List.replicate 256 7)) "."
    kelvinDocument).run ()).1

theorem sidecars_confined_kelvin :
    ∃ font own,
      kelvinFont = .ok font ∧
        (((Subset.ofFont font).requestAll []).compile font.label).result = .ok own ∧
        own.sidecars = [⟨"Bold-\u212Aids.bin", List.replicate 256 7⟩] ∧
        ∀ sidecar ∈ own.sidecars, IsSidecarName sidecar.name := by
  have facts :
      ∃ font ∈ kelvinFont.toOption,
        ∃ own ∈ (((Subset.ofFont font).requestAll []).compile font.label).result.toOption,
          own.sidecars = [⟨"Bold-\u212Aids.bin", List.replicate 256 7⟩] := by
    decide +kernel
  rcases facts with ⟨font, loads, own, compiles, sidecars⟩
  have accepted : kelvinFont = .ok font := ok_of_mem_toOption loads
  have compiled := ok_of_mem_toOption compiles
  exact
    ⟨font, own, accepted, compiled, sidecars, fun sidecar member =>
      (sidecars_confined accepted compiled sidecar member).1⟩

end FontCompiler.Command
