import Interception.Proofs.Kernel.Assembling
import Interception.Scenario.Basic

/-!
The kernels that scenarios find. A standard kernel has its drivers registered
one by one, each with tables of its own and every slot of files, lookups and
creations filled; a scenario only mounts filesystems on it and places files.
-/

namespace Interception

namespace Kernel

variable {kernel later : Kernel}

/-- No two drivers share an inode table, and no driver leaves the slots of
files, lookups and creations empty. -/
structure Separate (kernel : Kernel) : Prop where
  own : ∀ left ∈ kernel.drivers, ∀ right ∈ kernel.drivers,
    left.inodeOps = right.inodeOps → left.name = right.name
  files : ∀ driver ∈ kernel.drivers, ∀ hook, hook = .openFile ∨ hook = .release →
    kernel.memory.content (driver.fileOps.slot hook) ≠ Addr.null
  lookups : ∀ driver ∈ kernel.drivers, ∀ hook, hook = .lookup ∨ hook = .create →
    kernel.memory.content (driver.inodeOps.slot hook) ≠ Addr.null

theorem separate_stays (separate : Separate kernel) (stays : Stays kernel later) : Separate later := by
  constructor
  case own =>
    rw [stays.drivers]
    exact separate.own
  case files =>
    rw [stays.drivers, stays.memory]
    exact separate.files
  case lookups =>
    rw [stays.drivers, stays.memory]
    exact separate.lookups

theorem driver?_some {name : String} {driver : Driver} (found : kernel.driver? name = some driver) :
    driver ∈ kernel.drivers ∧ driver.name = name :=
  ⟨List.mem_of_find?_eq_some found, by simpa using List.find?_some found⟩

/-! ### The standard kernel -/

theorem register_other {name other : String} (different : name ≠ other)
    (atomicOpen revalidate : Bool) :
    (kernel.register name atomicOpen revalidate).2.driver? other = kernel.driver? other := by
  obtain ⟨slots, driver, _, rfl, same⟩ := register_fills kernel name atomicOpen revalidate
  rw [same, driver?, addDriver, List.find?_cons, beq_eq_false_iff_ne.mpr different,
    (fill_all_same slots _).1]
  rfl

theorem registerAll_assembled {names : List String} (distinct : names.Nodup) :
    ∀ kernel : Kernel, Assembled kernel → (∀ name ∈ names, kernel.driver? name = none) →
      Assembled (kernel.registerAll names) := by
  induction names with
  | nil => exact fun kernel assembled _ => assembled
  | cons name rest rest_assembled =>
      intro kernel assembled fresh
      obtain ⟨once, others⟩ := List.nodup_cons.mp distinct
      refine rest_assembled others _ (.register false false (fresh name (by simp)) assembled) ?_
      intro other member
      have different : name ≠ other := fun same => once (same ▸ member)
      rw [register_other different]
      exact fresh other (List.mem_cons_of_mem name member)

theorem standard_assembled : standard.Assembled := by
  refine .register true true (by decide +kernel) ?_
  exact registerAll_assembled (by decide) empty .empty fun _ _ => rfl

theorem standard_roomy : standard.Roomy := by decide +kernel

theorem standard_separate : standard.Separate := by
  constructor
  case own => decide +kernel
  case files =>
    have filled : ∀ driver ∈ standard.drivers,
        standard.memory.content (driver.fileOps.slot .openFile) ≠ Addr.null ∧
          standard.memory.content (driver.fileOps.slot .release) ≠ Addr.null := by decide +kernel
    rintro driver member hook (rfl | rfl)
    · exact (filled driver member).1
    · exact (filled driver member).2
  case lookups =>
    have filled : ∀ driver ∈ standard.drivers,
        standard.memory.content (driver.inodeOps.slot .lookup) ≠ Addr.null ∧
          standard.memory.content (driver.inodeOps.slot .create) ≠ Addr.null := by decide +kernel
    rintro driver member hook (rfl | rfl)
    · exact (filled driver member).1
    · exact (filled driver member).2

end Kernel

/-! ### Kernels of scenarios -/

namespace Scenario

open Kernel

variable {kernel later : Kernel}

/-- A kernel made from the standard one by mounts and files alone. -/
structure Built (kernel : Kernel) : Prop where
  assembled : kernel.Assembled
  stays : Stays standard kernel

theorem addFiles_built (dir : String) {files : List String} :
    ∀ kernel, Built kernel → addFiles dir kernel files = .ok later → Built later := by
  induction files with
  | nil =>
      rintro kernel built ⟨⟩
      exact built
  | cons file rest rest_built =>
      intro kernel built added
      rw [addFiles] at added
      cases placed : kernel.addFile dir file with
      | error cause => simp [placed] at added
      | ok made =>
          obtain ⟨inode, middle⟩ := made
          simp only [placed] at added
          have stays := (furnished_addFile (assembled_furnished built.assembled) placed).2
          exact rest_built middle ⟨.addFile placed built.assembled, built.stays.trans stays⟩ added

theorem mountAll_built {specs : List FilesystemSpec} :
    ∀ kernel, Built kernel → mountAll kernel specs = .ok later → Built later := by
  induction specs with
  | nil =>
      rintro kernel built ⟨⟩
      exact built
  | cons spec rest rest_built =>
      intro kernel built mounted
      rw [mountAll] at mounted
      cases made : kernel.premount spec.device spec.dir spec.fsType with
      | error cause => simp [made] at mounted
      | ok found =>
          obtain ⟨point, middle⟩ := found
          simp only [made] at mounted
          have stays := (furnished_premount (assembled_furnished built.assembled) made).2.1
          have middleBuilt : Built middle :=
            ⟨.premount made built.assembled, built.stays.trans stays⟩
          cases filled : addFiles spec.dir middle spec.files with
          | error error => simp [filled] at mounted
          | ok last =>
              simp only [filled] at mounted
              exact rest_built last (addFiles_built spec.dir middle middleBuilt filled) mounted

theorem kernel_built {scenario : Scenario} (made : scenario.kernel = .ok kernel) : Built kernel :=
  mountAll_built standard ⟨standard_assembled, Stays.refl standard⟩ made

theorem built_roomy (built : Built kernel) : kernel.Roomy := by
  rw [Roomy, built.stays.natives]
  exact standard_roomy

theorem built_separate (built : Built kernel) : kernel.Separate :=
  separate_stays standard_separate built.stays

theorem built_detached (built : Built kernel) : kernel.attached = false := by
  rw [built.stays.attached]
  rfl

end Scenario

end Interception
