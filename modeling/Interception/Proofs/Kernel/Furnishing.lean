import Interception.Proofs.Kernel.Mounting

/-!
Mounts and files as a kernel makes them. Every root and every file has the
tables of the driver its type goes by, and a root number belongs to one type
only. Kernels keep this while drivers of new names come and mounts and files
come and go.
-/

namespace Interception

namespace Kernel

/-- A file as the driver of a type makes it. -/
def Bears (kernel : Kernel) (fsType : String) (inode : Inode) : Prop :=
  inode.regular = true ∧ inode.fsType = fsType ∧
    ∃ driver, kernel.driver? fsType = some driver ∧ inode.fOp = driver.fileOps

/-- A mount point whose root is as the driver of its type makes it. -/
def Roots (kernel : Kernel) (point : MountPoint) : Prop :=
  point.root.fsType = point.fsType ∧
    ∃ driver, kernel.driver? point.fsType = some driver ∧ point.root.iOp = driver.inodeOps

structure Furnished (kernel : Kernel) : Prop where
  rooted : ∀ mount ∈ kernel.mounts, kernel.Roots mount.point
  filed : ∀ mount ∈ kernel.mounts, ∀ file ∈ mount.files, kernel.Bears mount.point.fsType file.2
  older : ∀ mount ∈ kernel.mounts, mount.point.root.ino < kernel.nextIno
  alike : ∀ left ∈ kernel.mounts, ∀ right ∈ kernel.mounts,
    left.point.root.ino = right.point.root.ino → left.point.fsType = right.point.fsType

/-- Drivers may come, but those that are there keep their names. -/
def Knows (kernel later : Kernel) : Prop :=
  ∀ name driver, kernel.driver? name = some driver → later.driver? name = some driver

variable {kernel later : Kernel}

theorem knows_of_drivers (same : later.drivers = kernel.drivers) : Knows kernel later := by
  intro name driver found
  rw [driver?, same]
  exact found

theorem bears_known (known : Knows kernel later) {fsType : String} {inode : Inode}
    (bears : kernel.Bears fsType inode) : later.Bears fsType inode := by
  obtain ⟨regular, type, driver, found, files⟩ := bears
  exact ⟨regular, type, driver, known fsType driver found, files⟩

theorem roots_known (known : Knows kernel later) {point : MountPoint}
    (roots : kernel.Roots point) : later.Roots point := by
  obtain ⟨type, driver, found, inodes⟩ := roots
  exact ⟨type, driver, known point.fsType driver found, inodes⟩

/-- Mounts, files and counts may have changed, but nothing the hooks rest on. -/
structure Stays (kernel later : Kernel) : Prop where
  drivers : later.drivers = kernel.drivers
  natives : later.natives = kernel.natives
  nextAddr : later.nextAddr = kernel.nextAddr
  memory : later.memory = kernel.memory
  attached : later.attached = kernel.attached

theorem Stays.refl (kernel : Kernel) : Stays kernel kernel := ⟨rfl, rfl, rfl, rfl, rfl⟩

theorem Stays.trans {middle : Kernel} (first : Stays kernel middle) (second : Stays middle later) :
    Stays kernel later :=
  ⟨second.drivers.trans first.drivers, second.natives.trans first.natives,
    second.nextAddr.trans first.nextAddr, second.memory.trans first.memory,
    second.attached.trans first.attached⟩

/-- A mount as it was, or with another place, other flags or another file. -/
structure Stems (kernel : Kernel) (mount old : Mount) : Prop where
  fsType : mount.point.fsType = old.point.fsType
  root : mount.point.root = old.point.root
  files : ∀ file ∈ mount.files, file ∈ old.files ∨ kernel.Bears old.point.fsType file.2

theorem Stems.refl (kernel : Kernel) (mount : Mount) : Stems kernel mount mount :=
  ⟨rfl, rfl, fun _ member => .inl member⟩

theorem furnished_from (furnished : Furnished kernel) (known : Knows kernel later)
    (numbers : kernel.nextIno ≤ later.nextIno)
    (stems : ∀ mount ∈ later.mounts, ∃ old ∈ kernel.mounts, Stems kernel mount old) :
    Furnished later := by
  constructor
  case rooted =>
    intro mount member
    obtain ⟨old, inside, stem⟩ := stems mount member
    have roots := roots_known known (furnished.rooted old inside)
    rw [Roots, stem.root, stem.fsType]
    exact roots
  case filed =>
    intro mount member file place
    obtain ⟨old, inside, stem⟩ := stems mount member
    rw [stem.fsType]
    rcases stem.files file place with kept | added
    · exact bears_known known (furnished.filed old inside file kept)
    · exact bears_known known added
  case older =>
    intro mount member
    obtain ⟨old, inside, stem⟩ := stems mount member
    rw [stem.root]
    exact Nat.lt_of_lt_of_le (furnished.older old inside) numbers
  case alike =>
    intro left leftMember right rightMember same
    obtain ⟨first, firstInside, firstStem⟩ := stems left leftMember
    obtain ⟨second, secondInside, secondStem⟩ := stems right rightMember
    rw [firstStem.root, secondStem.root] at same
    rw [firstStem.fsType, secondStem.fsType]
    exact furnished.alike first firstInside second secondInside same

theorem furnished_unmoved (furnished : Furnished kernel) (drivers : later.drivers = kernel.drivers)
    (mounts : later.mounts = kernel.mounts) (numbers : later.nextIno = kernel.nextIno) :
    Furnished later := by
  apply furnished_from furnished (knows_of_drivers drivers) (Nat.le_of_eq numbers.symm)
  intro mount member
  rw [mounts] at member
  exact ⟨mount, member, Stems.refl kernel mount⟩

/-! ### Mounts -/

theorem furnished_umount (furnished : Furnished kernel) (test : Mount → Bool) :
    Furnished { kernel with mounts := Mounts.removeLatest test kernel.mounts } := by
  refine furnished_from furnished (knows_of_drivers rfl) (Nat.le_refl _) ?_
  intro mount member
  exact ⟨mount, Mounts.mem_removeLatest member, Stems.refl kernel mount⟩

/-- A change of the latest mount of a test that leaves root, type and files
alone, or brings a file of the right type. -/
theorem furnished_changed (furnished : Furnished kernel) (test : Mount → Bool)
    {change : Mount → Mount}
    (stems : ∀ old, Mounts.latest test kernel.mounts = some old → Stems kernel (change old) old) :
    Furnished { kernel with mounts := Mounts.changeLatest test change kernel.mounts } := by
  refine furnished_from furnished (knows_of_drivers rfl) (Nat.le_refl _) ?_
  intro mount member
  rcases Mounts.mem_changeLatest member with kept | ⟨old, found, rfl⟩
  · exact ⟨mount, kept, Stems.refl kernel mount⟩
  · exact ⟨old, (Mounts.latest_some found).1, stems old found⟩

theorem furnished_bind (furnished : Furnished kernel) {source : MountPoint}
    (present : ∃ mount ∈ kernel.mounts, mount.point = source) (device dir : String)
    (flags : UInt64) :
    Furnished { kernel with
      mounts := kernel.mounts ++ [⟨{ source with device, path := dir, flags }, []⟩] } := by
  obtain ⟨origin, inside, rfl⟩ := present
  refine furnished_from furnished (knows_of_drivers rfl) (Nat.le_refl _) ?_
  intro mount member
  rcases List.mem_append.mp member with old | new
  · exact ⟨mount, old, Stems.refl kernel mount⟩
  · obtain rfl := List.mem_singleton.mp new
    exact ⟨origin, inside, rfl, rfl, by simp⟩

theorem premount_stays {device dir fsType : String} {point : MountPoint}
    (mounted : kernel.premount device dir fsType = .ok (point, later)) : Stays kernel later := by
  unfold premount at mounted
  cases found : kernel.driver? fsType with
  | none => simp [found] at mounted
  | some driver =>
      simp only [found, newInode, Except.ok.injEq, Prod.mk.injEq] at mounted
      obtain ⟨_, rfl⟩ := mounted
      exact ⟨rfl, rfl, rfl, rfl, rfl⟩

theorem furnished_premount (furnished : Furnished kernel) {device dir fsType : String}
    {point : MountPoint} (mounted : kernel.premount device dir fsType = .ok (point, later)) :
    Furnished later ∧ Stays kernel later ∧ later.Roots point ∧ point.path = dir ∧
      later.mounts = kernel.mounts ++ [⟨point, []⟩] := by
  have stays := premount_stays mounted
  unfold premount at mounted
  cases found : kernel.driver? fsType with
  | none => simp [found] at mounted
  | some driver =>
      simp only [found, newInode, Except.ok.injEq, Prod.mk.injEq] at mounted
      obtain ⟨rfl, rfl⟩ := mounted
      have named : driver.name = fsType := by simpa using List.find?_some found
      have roots : kernel.Roots ⟨device, dir, fsType, 0, ⟨kernel.nextIno, kernel.nextDev, false,
          driver.name, driver.inodeOps, driver.dirOps⟩, driver.dentryOps, 1⟩ :=
        ⟨named, driver, found, rfl⟩
      refine ⟨?_, stays, roots, rfl, rfl⟩
      constructor
      case rooted =>
        intro mount member
        rcases List.mem_append.mp member with old | new
        · exact furnished.rooted mount old
        · obtain rfl := List.mem_singleton.mp new
          exact roots
      case filed =>
        intro mount member file place
        rcases List.mem_append.mp member with old | new
        · exact furnished.filed mount old file place
        · obtain rfl := List.mem_singleton.mp new
          simp at place
      case older =>
        intro mount member
        rcases List.mem_append.mp member with old | new
        · exact Nat.lt_succ_of_lt (furnished.older mount old)
        · obtain rfl := List.mem_singleton.mp new
          exact Nat.lt_succ_self _
      case alike =>
        -- The new root has a number no mount had before.
        intro left leftMember right rightMember same
        rcases List.mem_append.mp leftMember with oldLeft | newLeft <;>
          rcases List.mem_append.mp rightMember with oldRight | newRight
        · exact furnished.alike left oldLeft right oldRight same
        · obtain rfl := List.mem_singleton.mp newRight
          exact absurd same (Nat.ne_of_lt (furnished.older left oldLeft))
        · obtain rfl := List.mem_singleton.mp newLeft
          exact absurd same.symm (Nat.ne_of_lt (furnished.older right oldRight))
        · rw [List.mem_singleton.mp newLeft, List.mem_singleton.mp newRight]

/-! ### Files -/

theorem newInode_bears {driver : Driver} {fsType : String}
    (found : kernel.driver? fsType = some driver) (dev : Nat) : kernel.Bears fsType (kernel.newInode driver dev true).1 := by
  have named : driver.name = fsType := by simpa using List.find?_some found
  exact ⟨rfl, named, driver, found, rfl⟩

/-- A new file of the right type on the latest mount of a test. -/
theorem furnished_placed (furnished : Furnished kernel) {driver : Driver} {fsType : String}
    (found : kernel.driver? fsType = some driver) (dev : Nat) (test : Mount → Bool) (name : String)
    (typed : ∀ mount, Mounts.latest test kernel.mounts = some mount → mount.point.fsType = fsType) :
    Furnished ((kernel.newInode driver dev true).2.placeOn test name
      (kernel.newInode driver dev true).1) := by
  have numbered : Furnished (kernel.newInode driver dev true).2 :=
    furnished_from furnished (knows_of_drivers rfl) (Nat.le_succ _)
      fun mount member => ⟨mount, member, Stems.refl kernel mount⟩
  apply furnished_changed numbered test
  intro old latest
  refine ⟨rfl, rfl, ?_⟩
  intro file member
  rcases Mount.mem_placeFile member with same | kept
  · rw [same, typed old latest]
    exact .inr (newInode_bears found dev)
  · exact .inl kept

theorem furnished_addFile (furnished : Furnished kernel) {dir name : String} {inode : Inode}
    (added : kernel.addFile dir name = .ok (inode, later)) :
    Furnished later ∧ Stays kernel later := by
  unfold addFile at added
  cases place : Mounts.at? dir kernel.mounts with
  | none => simp [place] at added
  | some mount =>
      cases found : kernel.driver? mount.point.fsType with
      | none => simp [place, found] at added
      | some driver =>
          simp only [place, found, Except.ok.injEq, Prod.mk.injEq] at added
          obtain ⟨_, rfl⟩ := added
          refine ⟨furnished_placed furnished found _ _ name ?_, rfl, rfl, rfl, rfl, rfl⟩
          intro other latest
          rw [Option.some.inj (latest.symm.trans place)]

theorem furnished_setPropagation (furnished : Furnished kernel) (dir : String) (count : Nat) :
    Furnished (kernel.setPropagation dir count) :=
  furnished_changed furnished _ fun _ _ => ⟨rfl, rfl, fun _ member => .inl member⟩

/-- The latest mount with a directory's number is of the directory's type. -/
def Places (kernel : Kernel) (dir : Inode) : Prop :=
  ∀ mount, Mounts.latest (rootedAt dir) kernel.mounts = some mount → mount.point.fsType = dir.fsType

theorem places_root (furnished : Furnished kernel) {mount : Mount} (inside : mount ∈ kernel.mounts) :
    kernel.Places mount.point.root := by
  intro other latest
  obtain ⟨member, rooted⟩ := Mounts.latest_some latest
  rw [(furnished.rooted mount inside).1]
  exact furnished.alike other member mount inside (beq_iff_eq.mp rooted)

theorem places_file (furnished : Furnished kernel) {dir : Inode} (places : kernel.Places dir)
    {mount : Mount} (latest : Mounts.latest (rootedAt dir) kernel.mounts = some mount)
    {name : String} {inode : Inode} (found : mount.file? name = some inode) :
    kernel.Bears dir.fsType inode := by
  obtain ⟨file, member, rfl⟩ := Mount.file?_some found
  rw [← places mount latest]
  exact furnished.filed mount (Mounts.latest_some latest).1 file member

theorem cached_bears (furnished : Furnished kernel) {mount : Mount} {dir name : String}
    {inode : Inode} (latest : Mounts.at? dir kernel.mounts = some mount)
    (found : kernel.cached dir name = some inode) : kernel.Bears mount.point.fsType inode := by
  rw [cached, latest, Option.bind_some] at found
  obtain ⟨file, member, rfl⟩ := Mount.file?_some found
  exact furnished.filed mount (Mounts.latest_some latest).1 file member

/-- The regular file found for a mount is of the type of the latest mount on the directory. -/
theorem findRegular_bears (furnished : Furnished kernel) {point : MountPoint} {inode : Inode}
    (found : kernel.findRegular point = some inode) :
    ∃ mount ∈ kernel.mounts, kernel.Bears mount.point.fsType inode := by
  obtain ⟨mount, latest, regular⟩ := Option.bind_eq_some_iff.mp found
  obtain ⟨file, member, rfl⟩ := Mount.regular?_some regular
  have inside := (Mounts.latest_some latest).1
  exact ⟨mount, inside, furnished.filed mount inside file member⟩

/-! ### Native functions -/

/-- A native function that opens nothing leaves the kernel furnished and the
number of opens as it was. -/
structure Tame (kernel later : Kernel) : Prop where
  furnished : Furnished kernel → Furnished later
  stays : Stays kernel later
  opens : later.calls.openFile = kernel.calls.openFile
  points : ∀ mount ∈ kernel.mounts, ∃ other ∈ later.mounts, other.point = mount.point

theorem Tame.refl (kernel : Kernel) : Tame kernel kernel :=
  ⟨id, Stays.refl kernel, rfl, fun mount member => ⟨mount, member, rfl⟩⟩

theorem tame_counted {calls : NativeCalls} (opens : calls.openFile = kernel.calls.openFile) :
    Tame kernel { kernel with calls } :=
  ⟨fun furnished => furnished_unmoved furnished rfl rfl rfl, ⟨rfl, rfl, rfl, rfl, rfl⟩, opens,
    fun mount member => ⟨mount, member, rfl⟩⟩

theorem Tame.trans {middle : Kernel} (first : Tame kernel middle) (second : Tame middle later) :
    Tame kernel later := by
  refine ⟨fun furnished => second.furnished (first.furnished furnished),
    first.stays.trans second.stays, second.opens.trans first.opens, ?_⟩
  intro mount member
  obtain ⟨other, inside, same⟩ := first.points mount member
  obtain ⟨last, there, point⟩ := second.points other inside
  exact ⟨last, there, point.trans same⟩

theorem nativeLookup_tame (target : Addr) (dir : Inode) (name : String) :
    Tame kernel (kernel.nativeLookup target dir name).2 := by
  unfold nativeLookup
  split
  · exact tame_counted rfl
  · exact Tame.refl kernel

theorem nativeLookup_bears (furnished : Furnished kernel) {dir : Inode} (places : kernel.Places dir)
    {target : Addr} {name : String} {inode : Inode}
    (found : (kernel.nativeLookup target dir name).1 = .ok (some inode)) :
    kernel.Bears dir.fsType inode := by
  unfold nativeLookup at found
  split at found
  · obtain ⟨mount, latest, file⟩ := Option.bind_eq_some_iff.mp (Except.ok.inj found)
    exact places_file furnished places latest file
  · cases found

theorem createIn_spec (furnished : Furnished kernel) {dir : Inode} (places : kernel.Places dir)
    (name : String) :
    Tame kernel (kernel.createIn dir name).2 ∧
      ∀ inode, (kernel.createIn dir name).1 = .ok inode → kernel.Bears dir.fsType inode := by
  unfold createIn
  cases found : kernel.driver? dir.fsType with
  | none => exact ⟨Tame.refl kernel, by simp⟩
  | some driver =>
      cases latest : Mounts.latest (rootedAt dir) kernel.mounts with
      | none => exact ⟨Tame.refl kernel, by simp⟩
      | some mount =>
          cases present : mount.file? name with
          | some inode =>
              simp only [present]
              refine ⟨Tame.refl kernel, ?_⟩
              intro other same
              obtain rfl := Except.ok.inj same
              exact places_file furnished places latest present
          | none =>
              simp only [present]
              refine ⟨⟨?_, ⟨rfl, rfl, rfl, rfl, rfl⟩, rfl, ?_⟩, ?_⟩
              · exact fun _ => furnished_placed furnished found dir.dev _ name places
              · intro old inside
                obtain ⟨other, there, rfl | rfl⟩ := Mounts.changeLatest_covers inside
                · exact ⟨_, there, rfl⟩
                · exact ⟨_, there, rfl⟩
              · intro other same
                obtain rfl := Except.ok.inj same
                exact newInode_bears found dir.dev

theorem nativeCreate_spec (furnished : Furnished kernel) {dir : Inode} (places : kernel.Places dir)
    (target : Addr) (name : String) :
    Tame kernel (kernel.nativeCreate target dir name).2 ∧
      ∀ inode, (kernel.nativeCreate target dir name).1 = .ok inode → kernel.Bears dir.fsType inode := by
  unfold nativeCreate
  split
  · have counted : Tame kernel { kernel with calls.create := kernel.calls.create + 1 } :=
      tame_counted rfl
    obtain ⟨created, bears⟩ := createIn_spec (counted.furnished furnished)
      (show Places { kernel with calls.create := kernel.calls.create + 1 } dir from places) name
    exact ⟨counted.trans created, bears⟩
  · exact ⟨Tame.refl kernel, by simp⟩

theorem nativeAtomicOpen_spec (furnished : Furnished kernel) {dir : Inode}
    (places : kernel.Places dir) (target : Addr) (name : String) :
    Tame kernel (kernel.nativeAtomicOpen target dir name).2 ∧
      ∀ inode, (kernel.nativeAtomicOpen target dir name).1 = .ok inode →
        kernel.Bears dir.fsType inode := by
  unfold nativeAtomicOpen
  split
  · have counted : Tame kernel { kernel with calls.atomicOpen := kernel.calls.atomicOpen + 1 } :=
      tame_counted rfl
    obtain ⟨created, bears⟩ := createIn_spec (counted.furnished furnished)
      (show Places { kernel with calls.atomicOpen := kernel.calls.atomicOpen + 1 } dir from places) name
    exact ⟨counted.trans created, bears⟩
  · exact ⟨Tame.refl kernel, by simp⟩

/-- Whatever it makes, a native function leaves drivers and slots alone. -/
theorem createIn_stays (dir : Inode) (name : String) : Stays kernel (kernel.createIn dir name).2 := by
  unfold createIn
  split
  · exact Stays.refl kernel
  · split
    · exact Stays.refl kernel
    · split
      · exact Stays.refl kernel
      · exact ⟨rfl, rfl, rfl, rfl, rfl⟩

theorem nativeCreate_stays (target : Addr) (dir : Inode) (name : String) :
    Stays kernel (kernel.nativeCreate target dir name).2 := by
  unfold nativeCreate
  split
  · have counted : Stays kernel { kernel with calls.create := kernel.calls.create + 1 } :=
      ⟨rfl, rfl, rfl, rfl, rfl⟩
    exact counted.trans (createIn_stays dir name)
  · exact Stays.refl kernel

theorem nativeAtomicOpen_stays (target : Addr) (dir : Inode) (name : String) :
    Stays kernel (kernel.nativeAtomicOpen target dir name).2 := by
  unfold nativeAtomicOpen
  split
  · have counted : Stays kernel { kernel with calls.atomicOpen := kernel.calls.atomicOpen + 1 } :=
      ⟨rfl, rfl, rfl, rfl, rfl⟩
    exact counted.trans (createIn_stays dir name)
  · exact Stays.refl kernel

theorem nativeRevalidate_tame (target : Addr) : Tame kernel (kernel.nativeRevalidate target).2 := by
  unfold nativeRevalidate
  split
  · exact tame_counted rfl
  · exact Tame.refl kernel

end Kernel

end Interception
