import Interception.Proofs.Kernel.Furnishing

/-!
Kernels before anything is hooked: drivers are registered, each under a name
of its own, and mounts and files come and go. As long as the addresses of the
native functions stay below those of the hooks, every slot holds no address
or that of a native function of its own kind.
-/

namespace Interception

/-- The slots by which a driver's files and directories are opened and closed. -/
def Driver.fileSlots (driver : Driver) : List Slot :=
  [driver.fileOps.slot .openFile, driver.fileOps.slot .release, driver.dirOps.slot .openFile,
    driver.dirOps.slot .release]

namespace Kernel

/-- A kernel that nothing but its own functions has made. -/
inductive Assembled : Kernel → Prop
  | empty : Assembled empty
  | register {kernel : Kernel} {name : String} (atomicOpen revalidate : Bool)
      (fresh : kernel.driver? name = none) (assembled : Assembled kernel) :
      Assembled (kernel.register name atomicOpen revalidate).2
  | share {kernel later : Kernel} {driver : Driver} {name base : String}
      (fresh : kernel.driver? name = none)
      (shared : kernel.registerSharing name base = some (driver, later))
      (assembled : Assembled kernel) : Assembled later
  | premount {kernel later : Kernel} {point : MountPoint} {device dir fsType : String}
      (mounted : kernel.premount device dir fsType = .ok (point, later))
      (assembled : Assembled kernel) : Assembled later
  | bind {kernel : Kernel} {source : Mount} (present : source ∈ kernel.mounts)
      (device dir : String) (flags : UInt64) (assembled : Assembled kernel) :
      Assembled { kernel with
        mounts := kernel.mounts ++ [⟨{ source.point with device, path := dir, flags }, []⟩] }
  | umount {kernel : Kernel} (dir : String) (assembled : Assembled kernel) :
      Assembled { kernel with
        mounts := Mounts.removeLatest (·.point.path == dir) kernel.mounts }
  | setPropagation {kernel : Kernel} (dir : String) (count : Nat)
      (assembled : Assembled kernel) : Assembled (kernel.setPropagation dir count)
  | addFile {kernel later : Kernel} {inode : Inode} {dir name : String}
      (added : kernel.addFile dir name = .ok (inode, later))
      (assembled : Assembled kernel) : Assembled later

/-! ### Addresses of native functions -/

/-- How many native functions there is room for below the hooks. -/
def nativeRoom : Nat := 8353792

def Roomy (kernel : Kernel) : Prop := kernel.natives.length ≤ nativeRoom

instance (kernel : Kernel) : Decidable kernel.Roomy := inferInstanceAs (Decidable (_ ≤ _))

def nativeAddr (count : Nat) : Addr := 0xffffffff81000000 + UInt64.ofNat (0x40 * count)

theorem nativeAddr_toNat {count : Nat} (room : count ≤ nativeRoom) :
    (nativeAddr count).toNat = 0xffffffff81000000 + 0x40 * count := by
  unfold nativeRoom at room
  rw [nativeAddr, UInt64.toNat_add, UInt64.toNat_ofNat']
  have first : (0xffffffff81000000 : UInt64).toNat = 0xffffffff81000000 := rfl
  omega

theorem nativeAddr_next (count : Nat) : nativeAddr count + 0x40 = nativeAddr (count + 1) := by
  rw [nativeAddr, nativeAddr, Nat.mul_add, UInt64.ofNat_add, ← UInt64.add_assoc]
  rfl

theorem nativeAddr_ne_null {count : Nat} (room : count ≤ nativeRoom) :
    nativeAddr count ≠ Addr.null := by
  intro same
  have number := nativeAddr_toNat room
  rw [same] at number
  have zero : Addr.null.toNat = 0 := rfl
  omega

theorem nativeAddr_ne_hook {count : Nat} (room : count < nativeRoom) (hook : Hook) :
    nativeAddr count ≠ hook.addr := by
  intro same
  have number := nativeAddr_toNat (Nat.le_of_lt room)
  rw [same] at number
  -- All hooks lie together, above the room there is for native functions.
  have above : 0xffffffffa0de0000 ≤ hook.addr.toNat := by cases hook <;> decide
  unfold nativeRoom at room
  omega

theorem nativeAddr_ne {left right : Nat} (less : left < right) (room : right ≤ nativeRoom) :
    nativeAddr left ≠ nativeAddr right := by
  intro same
  have first := nativeAddr_toNat (Nat.le_trans (Nat.le_of_lt less) room)
  have second := nativeAddr_toNat room
  rw [same] at first
  omega

/-- What slots hold before any hook. -/
structure Addressed (kernel : Kernel) : Prop where
  next : kernel.nextAddr = nativeAddr kernel.natives.length
  held : ∀ slot : Slot, kernel.memory.content slot ≠ Addr.null →
    kernel.natives.lookup (kernel.memory.content slot) = some slot.hook ∧
      ∃ count < kernel.natives.length, kernel.memory.content slot = nativeAddr count
  writable : kernel.memory.isSealed = false

variable {kernel later : Kernel}

theorem addressed_fill (addressed : Addressed kernel) {slot : Slot}
    (roomy : (kernel.fill slot).Roomy) :
    Addressed (kernel.fill slot) ∧
      ∀ other, kernel.memory.content other ≠ Addr.null ∨ other = slot →
        (kernel.fill slot).memory.content other ≠ Addr.null := by
  have room : kernel.natives.length < nativeRoom :=
    Nat.lt_of_succ_le roomy
  have written : (kernel.fill slot).memory.content slot = nativeAddr kernel.natives.length := by
    simp [fill, Memory.write, addressed.next]
  have kept (other : Slot) (different : other ≠ slot) :
      (kernel.fill slot).memory.content other = kernel.memory.content other := by
    simp [fill, Memory.write, different]
  have natives : (kernel.fill slot).natives =
      (nativeAddr kernel.natives.length, slot.hook) :: kernel.natives := by
    simp [fill, addressed.next]
  refine ⟨⟨?_, ?_, addressed.writable⟩, ?_⟩
  · rw [natives]
    exact (congrArg (· + 0x40) addressed.next).trans (nativeAddr_next _)
  · intro other present
    rw [natives]
    by_cases same : other = slot
    · subst same
      rw [written]
      exact ⟨by simp, kernel.natives.length, by simp, rfl⟩
    · rw [kept other same] at present ⊢
      obtain ⟨kind, count, below, place⟩ := addressed.held other present
      refine ⟨?_, count, by simp only [List.length_cons]; omega, place⟩
      -- The new address comes after all those that were given out.
      have older : (kernel.memory.content other == nativeAddr kernel.natives.length) = false := by
        rw [place]
        exact beq_eq_false_iff_ne.mpr (nativeAddr_ne below (Nat.le_of_lt room))
      rw [List.lookup_cons, older]
      exact kind
  · intro other present
    by_cases same : other = slot
    · rw [same, written]
      exact nativeAddr_ne_null (Nat.le_of_lt room)
    · rw [kept other same]
      exact present.resolve_right same

theorem fill_all_natives (slots : List Slot) :
    ∀ kernel : Kernel, (slots.foldl fill kernel).natives.length =
      kernel.natives.length + slots.length := by
  induction slots with
  | nil => exact fun kernel => rfl
  | cons slot rest rest_natives =>
      intro kernel
      rw [List.foldl_cons, rest_natives]
      simp only [fill, List.length_cons]
      omega

theorem addressed_fill_all (slots : List Slot) :
    ∀ kernel, Addressed kernel → (slots.foldl fill kernel).Roomy →
      Addressed (slots.foldl fill kernel) ∧
        ∀ other, kernel.memory.content other ≠ Addr.null ∨ other ∈ slots →
          (slots.foldl fill kernel).memory.content other ≠ Addr.null := by
  induction slots with
  | nil =>
      intro kernel addressed _
      refine ⟨addressed, ?_⟩
      intro other present
      exact present.resolve_right (by simp)
  | cons slot rest rest_filled =>
      intro kernel addressed roomy
      have first : (kernel.fill slot).Roomy := by
        have total := fill_all_natives rest (kernel.fill slot)
        simp only [Roomy, List.foldl_cons] at roomy ⊢
        omega
      obtain ⟨filled, present⟩ := addressed_fill addressed first
      obtain ⟨all, presentAll⟩ := rest_filled (kernel.fill slot) filled roomy
      refine ⟨all, ?_⟩
      intro other before
      rw [List.mem_cons, ← or_assoc] at before
      exact presentAll other (before.imp_left (present other))

theorem fill_all_same (slots : List Slot) :
    ∀ kernel : Kernel, (slots.foldl fill kernel).drivers = kernel.drivers ∧
      (slots.foldl fill kernel).mounts = kernel.mounts ∧
      (slots.foldl fill kernel).nextIno = kernel.nextIno := by
  induction slots with
  | nil => exact fun kernel => ⟨rfl, rfl, rfl⟩
  | cons slot rest rest_same => exact fun kernel => rest_same (kernel.fill slot)

/-! ### What assembled kernels are like -/

/-- A kernel ready to be hooked. -/
structure Ready (kernel : Kernel) : Prop where
  addressed : Addressed kernel
  opens : ∀ driver ∈ kernel.drivers,
    kernel.memory.content (driver.fileOps.slot .openFile) ≠ Addr.null

/-- All drivers can open and close. -/
structure Filled (kernel : Kernel) : Prop where
  addressed : Addressed kernel
  files : ∀ driver ∈ kernel.drivers, ∀ slot ∈ driver.fileSlots,
    kernel.memory.content slot ≠ Addr.null

theorem filled_ready (filled : Filled kernel) : Ready kernel :=
  ⟨filled.addressed, fun driver member =>
    filled.files driver member (driver.fileOps.slot .openFile) (by simp [Driver.fileSlots])⟩

theorem driver?_fresh {driver : Driver} (fresh : kernel.driver? driver.name = none) :
    Knows kernel (kernel.addDriver driver) := by
  intro name other found
  have different : (driver.name == name) = false := by
    rw [beq_eq_false_iff_ne]
    rintro rfl
    rw [fresh] at found
    cases found
  rw [driver?, addDriver, List.find?_cons, different]
  exact found

theorem furnished_addDriver (furnished : Furnished kernel) {driver : Driver}
    (fresh : kernel.driver? driver.name = none) : Furnished (kernel.addDriver driver) :=
  furnished_from furnished (driver?_fresh fresh) (Nat.le_refl _)
    fun mount member => ⟨mount, member, Stems.refl kernel mount⟩

theorem assembled_furnished (assembled : Assembled kernel) : Furnished kernel := by
  induction assembled with
  | empty => constructor <;> simp [empty]
  | @register kernel name atomicOpen revalidate fresh assembled furnished =>
      refine furnished_addDriver (furnished_unmoved furnished ?_ ?_ ?_) ?_
      · exact (fill_all_same _ _).1
      · exact (fill_all_same _ _).2.1
      · exact (fill_all_same _ _).2.2
      · rw [driver?, (fill_all_same _ _).1]
        exact fresh
  | share fresh shared assembled furnished =>
      obtain ⟨owner, _, same⟩ := Option.map_eq_some_iff.mp shared
      obtain ⟨_, rfl⟩ := Prod.mk.inj same
      exact furnished_addDriver furnished fresh
  | premount mounted assembled furnished => exact (furnished_premount furnished mounted).1
  | bind present device dir flags assembled furnished =>
      exact furnished_bind furnished ⟨_, present, rfl⟩ device dir flags
  | umount dir assembled furnished => exact furnished_umount furnished _
  | setPropagation dir count assembled furnished => exact furnished_setPropagation furnished dir count
  | addFile added assembled furnished => exact (furnished_addFile furnished added).1

theorem filled_stays (filled : Filled kernel) (stays : Stays kernel later) : Filled later := by
  refine ⟨⟨?_, ?_, ?_⟩, ?_⟩
  · rw [stays.nextAddr, stays.natives]
    exact filled.addressed.next
  · rw [stays.natives, stays.memory]
    exact filled.addressed.held
  · rw [stays.memory]
    exact filled.addressed.writable
  · rw [stays.drivers, stays.memory]
    exact filled.files

theorem roomy_stays (roomy : later.Roomy) (stays : Stays kernel later) : kernel.Roomy := by
  rw [Roomy, ← stays.natives]
  exact roomy

/-- The slots a driver with tables of its own fills. -/
theorem register_fills (kernel : Kernel) (name : String) (atomicOpen revalidate : Bool) :
    ∃ slots : List Slot, ∃ driver : Driver, (∀ slot ∈ driver.fileSlots, slot ∈ slots) ∧
      driver.name = name ∧ (kernel.register name atomicOpen revalidate).2 =
        (slots.foldl fill { kernel with nextTable := kernel.nextTable + 4 }).addDriver driver := by
  refine ⟨_, _, ?_, rfl, rfl⟩
  simp [Driver.fileSlots]

theorem filled_register (filled : kernel.Roomy → Filled kernel) (name : String)
    (atomicOpen revalidate : Bool) (roomy : (kernel.register name atomicOpen revalidate).2.Roomy) :
    Filled (kernel.register name atomicOpen revalidate).2 := by
  obtain ⟨slots, driver, files, _, same⟩ := register_fills kernel name atomicOpen revalidate
  rw [same] at roomy ⊢
  have before : kernel.Roomy := by
    have total : (slots.foldl fill { kernel with nextTable := kernel.nextTable + 4 }).natives.length =
        kernel.natives.length + slots.length := fill_all_natives slots _
    simp only [Roomy, addDriver] at roomy ⊢
    omega
  have addressed : Addressed { kernel with nextTable := kernel.nextTable + 4 } :=
    ⟨(filled before).addressed.next, (filled before).addressed.held,
      (filled before).addressed.writable⟩
  obtain ⟨all, present⟩ := addressed_fill_all slots _ addressed roomy
  refine ⟨⟨all.next, all.held, all.writable⟩, ?_⟩
  intro other member slot own
  rcases List.mem_cons.mp member with rfl | older
  · exact present slot (.inr (files slot own))
  · rw [(fill_all_same slots _).1] at older
    exact present slot (.inl ((filled before).files other older slot own))

theorem assembled_filled (assembled : Assembled kernel) : kernel.Roomy → Filled kernel := by
  induction assembled with
  | empty =>
      intro _
      refine ⟨⟨rfl, ?_, rfl⟩, by simp [empty]⟩
      intro slot present
      exact absurd rfl present
  | register atomicOpen revalidate fresh assembled filled =>
      exact filled_register filled _ atomicOpen revalidate
  | share fresh shared assembled filled =>
      -- Sharing fills no slots: the tables are those of a driver that is there.
      obtain ⟨owner, found, same⟩ := Option.map_eq_some_iff.mp shared
      obtain ⟨_, rfl⟩ := Prod.mk.inj same
      intro roomy
      obtain ⟨addressed, files⟩ := filled roomy
      refine ⟨⟨addressed.next, addressed.held, addressed.writable⟩, ?_⟩
      intro driver member
      rcases List.mem_cons.mp member with rfl | older
      · exact files owner (List.mem_of_find?_eq_some found)
      · exact files driver older
  | premount mounted assembled filled =>
      have stays := premount_stays mounted
      exact fun roomy => filled_stays (filled (roomy_stays roomy stays)) stays
  | bind present device dir flags assembled filled | umount dir assembled filled
  | setPropagation dir count assembled filled =>
      exact fun roomy => filled_stays (filled roomy) ⟨rfl, rfl, rfl, rfl, rfl⟩
  | addFile added assembled filled =>
      have stays := (furnished_addFile (assembled_furnished assembled) added).2
      exact fun roomy => filled_stays (filled (roomy_stays roomy stays)) stays

theorem assembled_ready (assembled : Assembled kernel) (roomy : kernel.Roomy) : Ready kernel :=
  filled_ready (assembled_filled assembled roomy)

theorem addressed_genuine (addressed : Addressed kernel) (roomy : kernel.Roomy) (slot : Slot) :
    kernel.memory.content slot ≠ slot.hook.addr := by
  by_cases missing : kernel.memory.content slot = Addr.null
  · rw [missing]
    cases slot.hook <;> decide
  · obtain ⟨_, count, below, same⟩ := addressed.held slot missing
    rw [same]
    exact nativeAddr_ne_hook (Nat.lt_of_lt_of_le below roomy) slot.hook

theorem addressed_callable (addressed : Addressed kernel) {slot : Slot}
    (present : kernel.memory.content slot ≠ Addr.null) :
    kernel.callable (kernel.memory.content slot) slot.hook = true := by
  rw [callable, (addressed.held slot present).1]
  exact beq_self_eq_true _

theorem ready_callable (ready : Ready kernel) {driver : Driver} (member : driver ∈ kernel.drivers) :
    kernel.callable (kernel.memory.content (driver.fileOps.slot .openFile)) .openFile = true :=
  addressed_callable ready.addressed (ready.opens driver member)

/-! ### Kernels for a purpose -/

def withMount (kernel : Kernel) (device dir fsType : String) : Kernel :=
  match kernel.premount device dir fsType with
  | .ok (_, later) => later
  | .error _ => kernel

def withFile (kernel : Kernel) (dir name : String) : Kernel :=
  match kernel.addFile dir name with
  | .ok (_, later) => later
  | .error _ => kernel

theorem assembled_withMount (assembled : Assembled kernel) (device dir fsType : String) :
    Assembled (kernel.withMount device dir fsType) := by
  unfold withMount
  split
  · rename_i mounted
    exact .premount mounted assembled
  · exact assembled

theorem assembled_withFile (assembled : Assembled kernel) (dir name : String) :
    Assembled (kernel.withFile dir name) := by
  unfold withFile
  split
  · rename_i added
    exact .addFile added assembled
  · exact assembled

end Kernel

end Interception
